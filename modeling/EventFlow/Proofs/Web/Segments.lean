import EventFlow.Proofs.Web.Escaping
import EventFlow.Web.Url
import Mathlib.Data.List.Induction

/-!
# Segments added to a URL

A name that is added to the path of a URL is written there in its encoded form, unless it is a dot
segment or holds characters that URLs pass over. Behind an authority the text of a path tells
which segments the path has.
-/

namespace EventFlow.Web.Url

/-! ## Names as segments -/

/-- A name as a path segment writes it. -/
def escaped (name : String) : String :=
  Percent.encode Percent.segment name.toList

/-- Names for which a segment can stand: they are no dot segments, and hold neither tabs nor line
ends. -/
def Addressable (name : String) : Prop :=
  name ≠ "." ∧ name ≠ ".." ∧ ∀ c ∈ name.toList, isIgnored c = false

/-- Only the characters of the name are looked at, and not all characters there are. -/
instance (name : String) : Decidable (Addressable name) :=
  have : Decidable (∀ c ∈ name.toList, isIgnored c = false) := List.decidableBAll _ _
  inferInstanceAs (Decidable (name ≠ "." ∧ name ≠ ".." ∧ ∀ c ∈ name.toList, isIgnored c = false))

/-- What a URL takes in of a name. -/
def heard (name : String) : String :=
  String.ofList (name.toList.filter fun c => !isIgnored c)

/-- A name is taken in as a whole if nothing of it is passed over. -/
theorem heard_eq_self_iff {name : String} :
    heard name = name ↔ ∀ c ∈ name.toList, isIgnored c = false := by
  rw [heard, ← String.toList_inj, String.toList_ofList, List.filter_eq_self]
  simp

theorem segment_marks : Percent.segment '%' = true := by decide

/-- Different names are written differently. -/
theorem escaped_injective {first second : String} (same : escaped first = escaped second) :
    first = second :=
  Percent.encode_injective segment_marks same

/-- Nothing is written only for nothing. -/
theorem escaped_eq_empty {name : String} (empty : escaped name = "") : name = "" :=
  escaped_injective (empty.trans (show "" = escaped "" from rfl))

/-- What is written for a name is decoded to the bytes of the name. -/
theorem decode_escaped (name : String) :
    Percent.decode (escaped name).toList = Text.bytesOf name :=
  Percent.decode_encode segment_marks name

theorem utf8EncodeChar_dot : String.utf8EncodeChar '.' = [46] := rfl

/-- A dot is decoded, however it is written. -/
theorem decode_dot (rest : List Char) :
    Percent.decode ('.' :: rest) = 46 :: Percent.decode rest ∧
      Percent.decode ('%' :: '2' :: 'e' :: rest) = 46 :: Percent.decode rest ∧
      Percent.decode ('%' :: '2' :: 'E' :: rest) = 46 :: Percent.decode rest :=
  ⟨Percent.decode_cons (by decide) rest, rfl, rfl⟩

/-- The segments that stand for their own place are written forms of one dot. -/
theorem decode_of_isSingleDot {segment : String} (dot : isSingleDot segment = true) :
    Percent.decode segment.toList = Text.bytesOf "." := by
  simp only [isSingleDot, Bool.or_eq_true, decide_eq_true_eq] at dot
  rw [Text.bytesOf_eq_flatMap]
  rcases dot with (rfl | rfl) | rfl <;> simp [decode_dot, utf8EncodeChar_dot, Percent.decode]

/-- The segments that stand for the place above are written forms of two dots. -/
theorem decode_of_isDoubleDot {segment : String} (dots : isDoubleDot segment = true) :
    Percent.decode segment.toList = Text.bytesOf ".." := by
  simp only [isDoubleDot, List.contains_iff_mem, List.mem_cons, List.not_mem_nil,
    or_false] at dots
  rw [Text.bytesOf_eq_flatMap]
  rcases dots with rfl | rfl | rfl | rfl | rfl | rfl | rfl | rfl | rfl <;>
    simp [decode_dot, utf8EncodeChar_dot, Percent.decode]

/-- No name but one dot is written as a segment that stands for its own place. -/
theorem isSingleDot_escaped {name : String} : isSingleDot (escaped name) = true ↔ name = "." := by
  constructor
  · intro dot
    apply Text.bytesOf_injective
    rw [← decode_escaped, decode_of_isSingleDot dot]
  · rintro rfl
    rfl

/-- No name but two dots is written as a segment that stands for the place above. -/
theorem isDoubleDot_escaped {name : String} : isDoubleDot (escaped name) = true ↔ name = ".." := by
  constructor
  · intro dots
    apply Text.bytesOf_injective
    rw [← decode_escaped, decode_of_isDoubleDot dots]
  · rintro rfl
    rfl

/-! ## Additions -/

/-- Segments as others are added to them: a lone empty one makes room. -/
def room (segments : List String) : List String :=
  if segments = [""] then [] else segments

theorem length_room_le (segments : List String) : (room segments).length ≤ segments.length := by
  unfold room
  split <;> simp

/-- Segments that are neither missing nor a lone empty one are not touched. -/
theorem room_eq_iff {segments front : List String} (some : front ≠ []) (filled : front ≠ [""]) :
    room segments = front ↔ segments = front := by
  unfold room
  split
  · next lone =>
    subst lone
    exact ⟨fun none => absurd none.symm some, fun lone => absurd lone.symm filled⟩
  · exact Iff.rfl

/-- What a name adds, if it is no dot segment: what is taken in of it may be one nevertheless. -/
theorem pushSegment_eq {name : String} (notHere : name ≠ ".") (notAbove : name ≠ "..")
    (segments : List String) :
    pushSegment segments name =
      if heard name = ".." then shorten (room segments) ++ [""]
      else if heard name = "." then room segments ++ [""]
      else room segments ++ [escaped (heard name)] := by
  have written : Percent.encode Percent.segment (name.toList.filter fun c => !isIgnored c) =
      escaped (heard name) := by
    rw [escaped, heard, String.toList_ofList]
  simp only [pushSegment, notHere, notAbove, or_self, if_false, written, isDoubleDot_escaped,
    isSingleDot_escaped]
  rfl

/-- A name that a segment can stand for adds this segment. -/
theorem pushSegment_of_addressable {name : String} (addressable : Addressable name)
    (segments : List String) : pushSegment segments name = room segments ++ [escaped name] := by
  obtain ⟨notHere, notAbove, whole⟩ := addressable
  rw [pushSegment_eq notHere notAbove, heard_eq_self_iff.mpr whole, if_neg notAbove,
    if_neg notHere]

/-- A name adds at most one segment. -/
theorem length_pushSegment_le (segments : List String) (name : String) :
    (pushSegment segments name).length ≤ segments.length + 1 := by
  have fits := length_room_le segments
  by_cases dot : name = "." ∨ name = ".."
  · rw [pushSegment, if_pos dot]
    omega
  · rw [not_or] at dot
    rw [pushSegment_eq dot.1 dot.2]
    have shorter : (shorten (room segments)).length ≤ (room segments).length := by
      unfold shorten
      split <;> simp
    split
    · simp only [List.length_append, List.length_singleton]
      omega
    · split <;> simp only [List.length_append, List.length_singleton] <;> omega

/-- A name adds its own segment exactly if a segment can stand for it. -/
theorem pushSegment_eq_iff {segments front : List String} {name : String}
    (short : segments.length ≤ front.length) :
    pushSegment segments name = front ++ [escaped name] ↔
      Addressable name ∧ room segments = front := by
  constructor
  · intro added
    have notDot : ¬ (name = "." ∨ name = "..") := by
      intro dot
      rw [pushSegment, if_pos dot] at added
      have lengths := congrArg List.length added
      rw [List.length_append, List.length_singleton] at lengths
      omega
    rw [not_or] at notDot
    -- an empty segment is added in place of a name of which only dots are taken in
    have notEmpty : heard name ≠ "" → "" ≠ escaped name := by
      intro something empty
      rw [escaped_eq_empty empty.symm] at something
      exact something rfl
    have taken : heard name = name ∧ room segments = front := by
      rw [pushSegment_eq notDot.1 notDot.2] at added
      split at added
      · next above =>
        have last := List.singleton_inj.mp (List.append_inj' added (by simp)).2
        exact absurd last (notEmpty (by rw [above]; decide))
      · split at added
        · next here =>
          have last := List.singleton_inj.mp (List.append_inj' added (by simp)).2
          exact absurd last (notEmpty (by rw [here]; decide))
        · obtain ⟨same, last⟩ := List.append_inj' added (by simp)
          exact ⟨escaped_injective (List.singleton_inj.mp last), same⟩
    exact ⟨⟨notDot.1, notDot.2, heard_eq_self_iff.mp taken.1⟩, taken.2⟩
  · rintro ⟨addressable, rfl⟩
    exact pushSegment_of_addressable addressable segments

/-- Names add at most one segment each. -/
theorem length_foldl_pushSegment_le (names segments : List String) :
    (names.foldl pushSegment segments).length ≤ segments.length + names.length := by
  induction names generalizing segments with
  | nil => exact Nat.le_refl _
  | cons name names ih =>
      have first := length_pushSegment_le segments name
      have later := ih (pushSegment segments name)
      rw [List.foldl_cons, List.length_cons]
      omega

/-- Behind other segments, names add their own segments exactly if segments can stand for all of
them. -/
theorem foldl_pushSegment_eq_iff {front : List String} (some : front ≠ []) (filled : front ≠ [""])
    (names : List String) :
    names.foldl pushSegment front = front ++ names.map escaped ↔
      ∀ name ∈ names, Addressable name := by
  -- from the last name backwards: what comes before it is too short to make up for a missing one
  induction names using List.reverseRecOn with
  | nil => simp
  | append_singleton names name ih =>
      have short : (names.foldl pushSegment front).length ≤
          (front ++ names.map escaped).length := by
        rw [List.length_append, List.length_map]
        exact length_foldl_pushSegment_le names front
      have someStill : front ++ names.map escaped ≠ [] := List.append_ne_nil_of_left_ne_nil some _
      have filledStill : front ++ names.map escaped ≠ [""] := by
        intro lone
        cases front with
        | nil => exact some rfl
        | cons first front =>
            rw [List.cons_append, List.cons.injEq, List.append_eq_nil_iff] at lone
            exact filled (by rw [lone.1, lone.2.1])
      rw [List.foldl_append, List.foldl_cons, List.foldl_nil, List.map_append, List.map_singleton,
        ← List.append_assoc, pushSegment_eq_iff short, room_eq_iff someStill filledStill, ih]
      simp [or_imp, forall_and, and_comm]

/-! ## Extended paths -/

/-- The path of a URL up to the empty segments at its end that additions take the place of. -/
def stem (url : Url) : List String :=
  match url.path with
  | .plain _ => []
  | .segments list => room (withoutEmptyLast list)

theorem stem_of_path {url : Url} {list : List String} (path : url.path = .segments list) :
    url.stem = room (withoutEmptyLast list) := by
  rw [stem, path]

/-- Only empty segments at the end of a path make room. -/
theorem exists_blanks {url : Url} {list : List String} (path : url.path = .segments list) :
    ∃ blanks, url.path = .segments (url.stem ++ blanks) ∧ ∀ blank ∈ blanks, blank = "" := by
  have kept : ∃ blanks, list = withoutEmptyLast list ++ blanks ∧ ∀ blank ∈ blanks, blank = "" := by
    unfold withoutEmptyLast
    split
    · exact ⟨[], by simp⟩
    · exact ⟨[], by simp⟩
    · split
      · next last =>
        obtain ⟨front, rfl⟩ := List.getLast?_eq_some_iff.mp last
        exact ⟨[""], by rw [List.dropLast_concat], by simp⟩
      · exact ⟨[], by simp⟩
  obtain ⟨blanks, split, empty⟩ := kept
  rw [stem_of_path path, path]
  by_cases lone : withoutEmptyLast list = [""]
  · refine ⟨"" :: blanks, congrArg UrlPath.segments ?_, by simpa using empty⟩
    rw [room, if_pos lone, List.nil_append]
    rwa [lone] at split
  · exact ⟨blanks, congrArg UrlPath.segments (by rwa [room, if_neg lone]), empty⟩

/-- Names are added to a path one after the other. -/
theorem path_extend {url : Url} {list : List String} (path : url.path = .segments list)
    (names : List String) :
    (url.extend names).path = .segments (names.foldl pushSegment (withoutEmptyLast list)) := by
  simp only [extend, path]

/-- Names extend a path by their own segments exactly if segments can stand for all of them. The
first one has to be something. -/
theorem path_extend_eq_iff {url : Url} {list : List String} (path : url.path = .segments list)
    {name : String} (addressable : Addressable name) (something : name ≠ "")
    (names : List String) :
    (url.extend (name :: names)).path = .segments (url.stem ++ (name :: names).map escaped) ↔
      ∀ other ∈ names, Addressable other := by
  have front : url.stem ++ [escaped name] = pushSegment (withoutEmptyLast list) name := by
    rw [pushSegment_of_addressable addressable, stem_of_path path]
  have some : url.stem ++ [escaped name] ≠ [] := by simp
  have filled : url.stem ++ [escaped name] ≠ [""] := by
    intro lone
    have last := (List.append_inj' (lone.trans (List.nil_append [""]).symm) (by simp)).2
    exact something (escaped_eq_empty (List.singleton_inj.mp last))
  rw [← foldl_pushSegment_eq_iff some filled, path_extend path, List.foldl_cons, ← front,
    List.map_cons, UrlPath.segments.injEq, List.append_cons _ _ (names.map escaped)]

end EventFlow.Web.Url
