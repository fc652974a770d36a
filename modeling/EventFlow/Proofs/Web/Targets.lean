import EventFlow.Proofs.Failing
import EventFlow.Proofs.Web.Segments

/-!
# Targets of requests

A URL that requests can be sent to has an authority and a path of segments. The target of a
request is the text of this path and the query; names that were added to the path can be told from
it.
-/

namespace EventFlow.Web.Url

/-! ## Segments in a text -/

/-- The characters of segments: each one stands behind its slash. -/
theorem toList_segmentsText_cons (segment : String) (rest : List String) :
    (segmentsText (segment :: rest)).toList =
      '/' :: (segment.toList ++ (segmentsText rest).toList) := by
  rw [segmentsText, List.map_cons, String.join_cons, String.toList_append, String.toList_append]
  rfl

/-- The text of segments is that of a front part and of the rest. -/
theorem segmentsText_append (front rest : List String) :
    segmentsText (front ++ rest) = segmentsText front ++ segmentsText rest := by
  rw [segmentsText, List.map_append, String.join_append]
  rfl

/-- Whether a character belongs to a segment, and does not end it. -/
def isInside (c : Char) : Bool :=
  c ≠ '/' && c ≠ '?'

/-- The text of a name that is written as a segment does not end before its last character. -/
theorem isInside_of_mem_escaped {name : String} {c : Char} (member : c ∈ (escaped name).toList) :
    isInside c = true := by
  rw [escaped, Percent.encode, String.toList_ofList] at member
  have noSlash : c ≠ '/' := by
    rintro rfl
    exact Percent.not_mem_encodeChars (by decide) (by decide) (by decide) _ member
  have noQuestion : c ≠ '?' := by
    rintro rfl
    exact Percent.not_mem_encodeChars (by decide) (by decide) (by decide) _ member
  simp [isInside, noSlash, noQuestion]

/-- In front of further segments, of a query or of the end, a name written as a segment ends with
its last character. -/
theorem takeWhile_escaped (name : String) (names : List String) {behind : List Char}
    (query : ∀ c ∈ behind.head?, c = '?') :
    ((escaped name).toList ++ ((segmentsText (names.map escaped)).toList ++ behind)).takeWhile
      isInside = (escaped name).toList := by
  have stops : ((segmentsText (names.map escaped)).toList ++ behind).takeWhile isInside = [] := by
    cases names with
    | cons other names => rw [List.map_cons, toList_segmentsText_cons]; rfl
    | nil =>
        cases behind with
        | nil => rfl
        | cons c behind => rw [query c rfl]; rfl
  rw [List.takeWhile_append_of_pos fun c member => isInside_of_mem_escaped member, stops,
    List.append_nil]

/-- Names written as segments can be told from the text in which they stand, in front of a query or
at the end. -/
theorem names_eq_of_text {names others : List String} {behind beyond : List Char}
    (query : ∀ c ∈ behind.head?, c = '?') (otherQuery : ∀ c ∈ beyond.head?, c = '?')
    (same : (segmentsText (names.map escaped)).toList ++ behind =
      (segmentsText (others.map escaped)).toList ++ beyond) : names = others := by
  have slash : ∀ {rest : List Char} {chars : List Char}, (∀ c ∈ rest.head?, c = '?') →
      rest ≠ '/' :: chars := by
    rintro _ chars query rfl
    exact absurd (query '/' rfl) (by decide)
  induction names generalizing others with
  | nil =>
      cases others with
      | nil => rfl
      | cons other others =>
          rw [List.map_cons, toList_segmentsText_cons] at same
          exact absurd same (slash query)
  | cons name names ih =>
      cases others with
      | nil =>
          rw [List.map_cons, toList_segmentsText_cons] at same
          exact absurd same.symm (slash otherQuery)
      | cons other others =>
          rw [List.map_cons, List.map_cons, toList_segmentsText_cons, toList_segmentsText_cons,
            List.cons_append, List.cons_append, List.append_assoc, List.append_assoc] at same
          have tails := List.tail_eq_of_cons_eq same
          have first := congrArg (List.takeWhile isInside) tails
          rw [takeWhile_escaped name names query, takeWhile_escaped other others otherQuery] at first
          rw [first] at tails
          rw [escaped_injective (String.toList_injective first),
            ih (List.append_cancel_left tails)]

/-! ## URLs for requests -/

/-- An entry of the query leaves the path as it is. -/
theorem path_addQuery (url : Url) (entry : String) : (url.addQuery entry).path = url.path := by
  unfold addQuery
  split <;> rfl

/-- An entry of the query leaves the authority as it is. -/
theorem authority_addQuery (url : Url) (entry : String) :
    (url.addQuery entry).authority = url.authority := by
  unfold addQuery
  split <;> rfl

/-- Further segments leave the authority as it is. -/
theorem authority_extend (url : Url) (names : List String) :
    (url.extend names).authority = url.authority := by
  unfold extend
  split <;> rfl

/-- The target of a URL with an authority is the text of its segments, and the query. -/
theorem target_eq {url : Url} {list : List String} (authority : url.authority.isSome = true)
    (path : url.path = .segments list) :
    url.target = segmentsText list ++ marked "?" url.query := by
  simp [target, authority, path, pathText]

/-- A query begins with its mark. -/
theorem head?_marked (query : Option String) : ∀ c ∈ (marked "?" query).toList.head?, c = '?' := by
  cases query with
  | none => simp [marked]
  | some text =>
      rw [marked, String.toList_append]
      simp

/-- Behind the scheme of a URL for requests, an authority and a path of segments are read. -/
theorem parts_of_ofScheme {scheme : String} (http : scheme = "http" ∨ scheme = "https")
    {text : List Char} {followed : Bool} {authority : Option Authority} {path : UrlPath}
    (read : ofScheme scheme text followed = .ok (authority, path)) :
    authority.isSome = true ∧ ∃ list, path = .segments list := by
  have special : isSpecial scheme = true ∧ scheme ≠ "file" := by
    rcases http with rfl | rfl <;> exact ⟨by decide, by decide⟩
  unfold ofScheme at read
  rw [if_neg special.2, if_pos special.1] at read
  obtain ⟨⟨found, behind⟩, _, made⟩ := Failing.bind_eq_ok.mp read
  cases made
  exact ⟨rfl, _, rfl⟩

/-- A URL that is read has an authority and a path of segments if requests can be sent to it. -/
theorem parts_of_parse {text : String} {url : Url} (parsed : parse text = .ok url)
    (http : url.isHttp = true) :
    url.authority.isSome = true ∧ ∃ list, url.path = .segments list := by
  unfold parse at parsed
  split at parsed
  · cases parsed
  · next scheme rest _ =>
    obtain ⟨⟨authority, path⟩, read, made⟩ := Failing.bind_eq_ok.mp parsed
    cases made
    exact parts_of_ofScheme (by simpa [isHttp] using http) read

end EventFlow.Web.Url
