import EventFlow.Api.Credentials

/-!
# Which credentials are accepted

The documented alphabet of credentials is ASCII: letters and digits, beside them the underscore in
user names and eight marks in passwords. User names are held to it. Passwords are held to it up to
their digits, which may be those of any script, so that the documented credentials are the accepted
ones whose passwords have ASCII digits only.
-/

namespace EventFlow

/-- The ASCII characters among the decimal digits are the ASCII digits. -/
theorem Text.isDigit_of_isDecimalDigit {c : Char} (ascii : c.toNat < 128)
    (digit : isDecimalDigit c = true) : c.isDigit = true := by
  obtain ⟨range, listed, low, high⟩ : ∃ range ∈ decimalDigits,
      range.1 ≤ c.toNat ∧ c.toNat ≤ range.2 := by
    simpa [isDecimalDigit, Ranges.contains] using digit
  have first : ∀ range ∈ decimalDigits, range = (48, 57) ∨ 128 ≤ range.1 := by decide
  rcases first range listed with rfl | beyond
  · simp only [Char.isDigit, ge_iff_le, Bool.and_eq_true, decide_eq_true_eq,
      UInt32.le_iff_toNat_le]
    exact ⟨low, high⟩
  · omega

/-- The letters of ASCII are two ranges. -/
theorem Text.isAlpha_iff {c : Char} :
    c.isAlpha = true ↔ ('A' ≤ c ∧ c ≤ 'Z') ∨ ('a' ≤ c ∧ c ≤ 'z') := by
  have upper : c.isUpper = true ↔ 'A' ≤ c ∧ c ≤ 'Z' := decide_eq_true_iff
  have lower : c.isLower = true ↔ 'a' ≤ c ∧ c ≤ 'z' :=
    Bool.and_eq_true_iff.trans (and_congr decide_eq_true_iff decide_eq_true_iff)
  exact Bool.or_eq_true_iff.trans (or_congr upper lower)

/-- ASCII letters and digits are ASCII characters. -/
theorem Text.ascii_of_isAlphanum {c : Char} (plain : c.isAlphanum = true) : c.toNat < 128 := by
  have below : ∀ last : Char, last.toNat < 128 → c ≤ last → c.toNat < 128 :=
    fun _ ascii least => Nat.lt_of_le_of_lt (UInt32.le_iff_toNat_le.mp least) ascii
  rcases Bool.or_eq_true_iff.mp plain with letter | digit
  · rcases isAlpha_iff.mp letter with upper | lower
    · exact below 'Z' (by decide) upper.2
    · exact below 'z' (by decide) lower.2
  · exact below '9' (by decide) (of_decide_eq_true (Bool.and_eq_true_iff.mp digit).2)

namespace Credentials

variable {user password : String} {c : Char}

/-- The letters of credentials are the ASCII letters. -/
theorem isLetter_iff : isLetter c = true ↔ c.isAlpha = true := by
  simp [isLetter, Text.isAlpha_iff, or_comm]

/-- A user name is made of ASCII letters, ASCII digits and the underscore. -/
theorem isUser_iff : isUser user = true ↔
    user ≠ "" ∧ ∀ c ∈ user.toList, c.isAlphanum = true ∨ c = '_' := by
  have allowed : ∀ c, isUserChar c = true ↔ c.isAlphanum = true ∨ c = '_' := by
    simp [isUserChar, isLetter_iff, Char.isAlphanum, Char.isDigit, Char.le_def]
  simp [isUser, List.all_eq_true, allowed]

/-- The marks that a password may hold. -/
def passwordMarks : List Char :=
  ['@', '$', '!', '%', '*', '#', '?', '&']

/-- A password is made of ASCII letters, of which it has one, decimal digits and marks. -/
theorem isPassword_iff : isPassword password = true ↔
    (∀ c ∈ password.toList,
        c.isAlpha = true ∨ Text.isDecimalDigit c = true ∨ c ∈ passwordMarks) ∧
      ∃ c ∈ password.toList, c.isAlpha = true := by
  have marks : "@$!%*#?&".toList = passwordMarks := by decide
  simp only [isPassword, isPasswordChar, marks, Bool.and_eq_true, List.all_eq_true,
    List.any_eq_true, Bool.or_eq_true, List.contains_iff_mem, isLetter_iff, or_assoc]

/-- Credentials of the documented alphabet. -/
structure Documented (user password : String) : Prop where
  named : user ≠ ""
  nameChars : ∀ c ∈ user.toList, c.isAlphanum = true ∨ c = '_'
  secret : password ≠ ""
  secretChars : ∀ c ∈ password.toList, c.isAlphanum = true ∨ c ∈ passwordMarks
  lettered : ∃ c ∈ password.toList, c.isAlpha = true

/-- A decimal digit in a documented password is an ASCII digit. -/
theorem Documented.isDigit (documented : Documented user password)
    (member : c ∈ password.toList) (digit : Text.isDecimalDigit c = true) : c.isDigit = true := by
  have marks : ∀ mark ∈ passwordMarks, mark.toNat < 128 := by simp [passwordMarks]
  refine Text.isDigit_of_isDecimalDigit ?_ digit
  rcases documented.secretChars c member with plain | mark
  · exact Text.ascii_of_isAlphanum plain
  · exact marks c mark

/-- Credentials are made of a user name and a password as they are given, if the user name is not
empty and has only ASCII letters, ASCII digits and underscores, and the password has only ASCII
letters, decimal digits and the eight marks, and at least one letter. Hence the documented
credentials are accepted, and those that are accepted are documented exactly if the decimal digits
of the password are ASCII digits. -/
theorem accepted_up_to_digits (user password : String) :
    (∀ credentials, make user password = .ok credentials ↔
        credentials = { user, password } ∧
        (user ≠ "" ∧ ∀ c ∈ user.toList, c.isAlphanum = true ∨ c = '_') ∧
        (∀ c ∈ password.toList,
          c.isAlpha = true ∨ Text.isDecimalDigit c = true ∨ c ∈ passwordMarks) ∧
        ∃ c ∈ password.toList, c.isAlpha = true) ∧
      (Documented user password ↔
        make user password = .ok { user, password } ∧
        ∀ c ∈ password.toList, Text.isDecimalDigit c = true → c.isDigit = true) := by
  have accepted : ∀ credentials, make user password = .ok credentials ↔
      credentials = { user, password } ∧ isUser user = true ∧ isPassword password = true := by
    intro credentials
    cases named : isUser user <;> cases secret : isPassword password <;>
      simp [make, named, secret, eq_comm]
  simp only [isUser_iff, isPassword_iff] at accepted
  refine ⟨accepted, ?_⟩
  rw [accepted]
  constructor
  · intro documented
    refine ⟨⟨rfl, ⟨documented.named, documented.nameChars⟩, fun c member => ?_,
      documented.lettered⟩, fun c member digit => documented.isDigit member digit⟩
    rcases documented.secretChars c member with plain | mark
    · rcases Bool.or_eq_true_iff.mp plain with letter | digit
      · exact .inl letter
      · exact .inr (.inl (Text.isDecimalDigit_of_isDigit digit))
    · exact .inr (.inr mark)
  · rintro ⟨⟨-, ⟨named, nameChars⟩, secretChars, lettered⟩, plain⟩
    refine ⟨named, nameChars, ?_, fun c member => ?_, lettered⟩
    · rintro rfl
      obtain ⟨c, member, -⟩ := lettered
      exact absurd member (by simp)
    · rcases secretChars c member with letter | digit | mark
      · exact .inl (by simp [Char.isAlphanum, letter])
      · exact .inl (by simp [Char.isAlphanum, plain c member digit])
      · exact .inr mark

/-- A password with a digit of another script is accepted, although it is not a documented one. -/
theorem foreign_digit_accepted :
    make "tester" "abc٣" = .ok { user := "tester", password := "abc٣" } ∧
      ¬ Documented "tester" "abc٣" := by
  refine ⟨rfl, fun documented => ?_⟩
  have digit : Char.isDigit '٣' = true := documented.isDigit (by decide) (by decide)
  exact absurd digit (by decide)

end Credentials

end EventFlow
