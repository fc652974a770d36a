import EventFlow.Json.Path
import EventFlow.Proofs.Dict

/-!
# Reading and writing at paths

A path names the same place for reading and for writing if it begins with a single dollar sign,
and only then. What is written at such a path is found there, and two paths neither of which
leads through the place of the other do not get in each other's way.
-/

namespace EventFlow

namespace Path

/-- A path that begins with one dollar sign and no second one. -/
def IsRooted (path : String) : Prop :=
  ∃ rest, path.toList = '$' :: rest ∧ rest.head? ≠ some '$'

/-- The names for reading stand behind the first dollar sign. -/
theorem readSegments?_of_dollar {path : String} {rest : List Char}
    (spelled : path.toList = '$' :: rest) : readSegments? path = some (segments rest) := by
  simp [readSegments?, spelled]

/-- The names along a path that begins with one dollar sign are those for reading and those for
writing. -/
theorem IsRooted.readSegments? {path : String} (rooted : IsRooted path) :
    Path.readSegments? path = some (writeSegments path) := by
  obtain ⟨rest, spelled, single⟩ := rooted
  have same : (path.toList.dropWhile (· = '$')) = rest := by
    rw [spelled, List.dropWhile_cons_of_pos (by simp)]
    cases rest with
    | nil => rfl
    | cons first rest =>
        have other : first ≠ '$' := fun dollar => single (dollar ▸ rfl)
        rw [List.dropWhile_cons_of_neg (by simpa using other)]
  rw [readSegments?_of_dollar spelled, writeSegments, same]

/-- The segment under way goes in front of the first segment of what follows. -/
theorem exists_splitDots (chars : List Char) : ∃ first rest, ∀ current,
    splitDots current chars = String.ofList (current.reverse ++ first) :: rest := by
  induction chars with
  | nil => exact ⟨[], [], fun current => by rw [splitDots, List.append_nil]⟩
  | cons c chars ih =>
      by_cases dot : c = '.'
      · exact ⟨[], splitDots [] chars, fun current => by
          rw [splitDots, if_pos dot, List.append_nil]⟩
      · obtain ⟨first, rest, split⟩ := ih
        refine ⟨c :: first, rest, fun current => ?_⟩
        rw [splitDots, if_neg dot, split, List.reverse_cons, List.append_assoc,
          List.singleton_append]

/-- Characters other than dots go into the segment under way. -/
theorem splitDots_append {front : List Char} (noDot : ∀ c ∈ front, c ≠ '.')
    (current rest : List Char) :
    splitDots current (front ++ rest) = splitDots (front.reverse ++ current) rest := by
  induction front generalizing current with
  | nil => rfl
  | cons c front ih =>
      rw [List.cons_append, splitDots, if_neg (noDot c List.mem_cons_self),
        ih fun other member => noDot other (List.mem_cons_of_mem _ member), List.reverse_cons,
        List.append_assoc, List.singleton_append]

/-- Behind two dollar signs the names for reading have one that those for writing lack: it comes
on top of them, or stands in place of the first. -/
theorem segments_of_dollars {path : String} {rest : List Char}
    (spelled : path.toList = '$' :: '$' :: rest) :
    ∃ first names, readSegments? path = some (first :: names) ∧
      (writeSegments path = names ∨ ∃ other, writeSegments path = other :: names ∧ other ≠ first) := by
  have dollars : ∀ c ∈ '$' :: rest.takeWhile (· = '$'), c ≠ '.' := by
    intro c member
    rcases List.mem_cons.mp member with rfl | inside
    · decide
    · have dollar : c = '$' := by simpa using List.all_eq_true.mp List.all_takeWhile c inside
      rw [dollar]
      decide
  obtain ⟨first, names, split⟩ := exists_splitDots (rest.dropWhile (· = '$'))
  have written : writeSegments path = segments (rest.dropWhile (· = '$')) := by
    rw [writeSegments, spelled, List.dropWhile_cons_of_pos (by simp),
      List.dropWhile_cons_of_pos (by simp)]
  have read : readSegments? path = some (segments (('$' :: rest.takeWhile (· = '$')) ++
      rest.dropWhile (· = '$'))) := by
    rw [readSegments?_of_dollar spelled, List.cons_append, List.takeWhile_append_dropWhile]
  rw [read, written, segments, segments, splitDots_append dollars, split, split]
  refine ⟨String.ofList ('$' :: rest.takeWhile (· = '$') ++ first),
    names.filter fun segment => !segment.isEmpty, ?_, ?_⟩
  · simp
  · cases first with
    | nil => exact .inl (by simp)
    | cons c first =>
        refine .inr ⟨String.ofList (c :: first), by simp, fun same => ?_⟩
        have lengths := congrArg (fun text => text.toList.length) same
        simp at lengths
        omega

end Path

namespace Json

@[simp] theorem fields_object (entries : Dict Json) : (Json.object entries).fields = entries := rfl

@[simp] theorem get?_object (entries : Dict Json) (key : String) :
    (Json.object entries).get? key = Dict.get? entries key := rfl

/-- Into nothing, a value is placed as the only one. -/
theorem place_null_cons (value : Json) (name : String) (names : List String) :
    place value .null (name :: names) = .object [(name, place value .null names)] :=
  place_cons value .null name names

/-! ## Finding what was written -/

/-- A value that is no object is not found one name further than it was placed. -/
theorem follow_place_longer (first : String) (names : List String) :
    follow (place .null .null names) (first :: names) ≠ some .null := by
  induction names generalizing first with
  | nil => simp [follow_cons, get?]
  | cons name names ih =>
      rw [place_null_cons, follow_cons, get?_object, Dict.get?_cons]
      by_cases same : name = first
      · rw [if_pos same, Option.bind_some]
        exact ih name
      · simp [same]

/-- What is placed at a list of names is not found at one that begins otherwise. -/
theorem follow_place_elsewhere {first other : String} (different : other ≠ first)
    (value : Json) (names more : List String) :
    follow (place value .null (other :: names)) (first :: more) = none := by
  rw [place_null_cons, follow_cons, get?_object, Dict.get?_cons, if_neg different]
  rfl

/-- Whatever is written at a path, into whatever document, is found there: this holds of the paths
that begin with a single dollar sign, however they go on, and of no other path. -/
theorem lookup_write_iff_rooted (path : String) :
    (∀ document value : Json, lookup (write document path value) path = some value) ↔
      Path.IsRooted path := by
  constructor
  · intro found
    have null := found .null .null
    rw [lookup, write] at null
    cases spelled : path.toList with
    | nil => simp [Path.readSegments?, spelled] at null
    | cons c rest =>
        have dollar : c = '$' := by
          by_cases dollar : c = '$'
          · exact dollar
          · simp [Path.readSegments?, spelled, dollar] at null
        subst dollar
        refine ⟨rest, spelled, fun second => ?_⟩
        obtain ⟨rest, rfl⟩ := List.head?_eq_some_iff.mp second
        obtain ⟨first, names, read, written | ⟨other, written, different⟩⟩ :=
          Path.segments_of_dollars spelled
        · rw [read, written] at null
          exact follow_place_longer first names null
        · rw [read, written] at null
          have absent := follow_place_elsewhere different .null names names
          cases absent.symm.trans null
  · intro rooted document value
    rw [lookup, rooted.readSegments?, write]
    exact follow_place value document (Path.writeSegments path)

/-- At a path with two dollar signs nothing is found of what was written there. -/
theorem dollars_not_found :
    write (.object []) "$$.a" (.bool true) = .object [("a", .bool true)] ∧
      lookup (write (.object []) "$$.a" (.bool true)) "$$.a" = none :=
  ⟨rfl, rfl⟩

/-! ## Writing side by side -/

/-- Two lists of names part ways: at some point they go on with different names. -/
inductive Part : List String → List String → Prop where
  | here {name other : String} {names others : List String} (different : name ≠ other) :
      Part (name :: names) (other :: others)
  | behind {name : String} {names others : List String} (later : Part names others) :
      Part (name :: names) (name :: others)

/-- Two lists part ways exactly when neither begins with the other. -/
theorem part_iff {names others : List String} :
    Part names others ↔ ¬ names <+: others ∧ ¬ others <+: names := by
  constructor
  · intro part
    induction part with
    | here different => simp [different, Ne.symm different]
    | behind later ih => simpa using ih
  · rintro ⟨notFront, notBehind⟩
    induction names generalizing others with
    | nil => exact absurd List.nil_prefix notFront
    | cons name names ih =>
        cases others with
        | nil => exact absurd List.nil_prefix notBehind
        | cons other others =>
            by_cases same : name = other
            · subst same
              rw [List.cons_prefix_cons] at notFront notBehind
              exact .behind (ih (fun front => notFront ⟨rfl, front⟩)
                fun behind => notBehind ⟨rfl, behind⟩)
            · exact .here same

/-- Nothing is found inside of what is no object. -/
theorem follow_null_of_part {names others : List String} (part : Part names others) :
    follow .null others = none := by
  cases part <;> rfl

/-- A value that is placed elsewhere does not change what is found. -/
theorem follow_place_of_part {names others : List String} (part : Part names others)
    (document value : Json) :
    follow (place value document names) others = follow document others := by
  induction part generalizing document with
  | here different =>
      rw [place_cons, follow_cons, follow_cons, get?_object, Dict.get?_insert_of_ne _ _ different,
        get?_fields]
  | @behind name _ _ later ih =>
      rw [place_cons, follow_cons, follow_cons, get?_object, Dict.get?_insert_self, Option.bind_some,
        ih]
      cases document.get? name with
      | none => exact follow_null_of_part later
      | some inner => rfl

/-- Two values are placed at lists of names that part ways in any order. -/
theorem place_comm_of_part {names others : List String} (part : Part names others)
    (document value second : Json) :
    place second (place value document names) others =
      place value (place second document others) names := by
  induction part generalizing document with
  | here different =>
      simp only [place_cons, fields_object, get?_object, Dict.get?_insert_of_ne _ _ different,
        Dict.get?_insert_of_ne _ _ (Ne.symm different), get?_fields, Dict.insert_comm _ different]
  | behind later ih =>
      simp only [place_cons, fields_object, get?_object, Dict.get?_insert_self, Option.getD_some,
        Dict.insert_insert_self, ih]

/-- Of two values placed at the same names the later one counts. -/
theorem place_place (document value second : Json) (names : List String) :
    place second (place value document names) names = place second document names := by
  induction names generalizing document with
  | nil => simp
  | cons name names ih =>
      simp only [place_cons, fields_object, get?_object, Dict.get?_insert_self, Option.getD_some,
        Dict.insert_insert_self, ih]

/-- Of two writes at one path the later one counts. Writes at two paths neither of whose lists of
names begins with the other may be done in any order, and what is found at the one path stays what
it was, also if it is nothing, when the other is written, whatever gives way to an object there. -/
theorem writes_side_by_side (path other : String) (document value second : Json) :
    write (write document path value) path second = write document path second ∧
      (¬ Path.writeSegments path <+: Path.writeSegments other →
        ¬ Path.writeSegments other <+: Path.writeSegments path →
        write (write document path value) other second =
            write (write document other second) path value ∧
          (Path.IsRooted other →
            lookup (write document path value) other = lookup document other)) := by
  refine ⟨place_place document value second _, fun notFront notBehind => ?_⟩
  have part := part_iff.mpr ⟨notFront, notBehind⟩
  refine ⟨place_comm_of_part part document value second, fun rooted => ?_⟩
  rw [lookup, lookup, rooted.readSegments?]
  exact follow_place_of_part part document value

/-- A document with a number where a path leads on. -/
def sampleDocument : Json :=
  .object [("a", .nat 1), ("b", .array [])]

/-- A write that makes an object of a number leaves the place beside it empty, and a second write
there may as well come first. -/
theorem sample_side_by_side :
    (¬ Path.writeSegments "$.a.b" <+: Path.writeSegments "$..a.c" ∧
        ¬ Path.writeSegments "$..a.c" <+: Path.writeSegments "$.a.b" ∧ Path.IsRooted "$..a.c") ∧
      write (write sampleDocument "$.a.b" .null) "$..a.c" (.bool true) =
          write (write sampleDocument "$..a.c" (.bool true)) "$.a.b" .null ∧
        lookup (write sampleDocument "$.a.b" .null) "$..a.c" = none := by
  have rooted : Path.IsRooted "$..a.c" := ⟨"..a.c".toList, rfl, by decide⟩
  have front : ¬ Path.writeSegments "$.a.b" <+: Path.writeSegments "$..a.c" := by decide
  have behind : ¬ Path.writeSegments "$..a.c" <+: Path.writeSegments "$.a.b" := by decide
  obtain ⟨order, found⟩ :=
    (writes_side_by_side "$.a.b" "$..a.c" sampleDocument .null (.bool true)).2 front behind
  exact ⟨⟨front, behind, rooted⟩, order, found rooted⟩

end Json

end EventFlow
