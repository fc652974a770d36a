/-!
# Parts of a text

A text falls into parts between the occurrences of some characters. There is one
part more than there are marks.
-/

namespace EventFlow.Text

/-- The parts of a text between the marks, given the parts so far and the part
under way, both in reverse. -/
def partsFrom (isMark : Char → Bool) (done : List (List Char)) (current : List Char) :
    List Char → List (List Char)
  | [] => (current.reverse :: done).reverse
  | c :: rest =>
    if isMark c then partsFrom isMark (current.reverse :: done) [] rest
    else partsFrom isMark done (c :: current) rest

/-- The parts of a text between the marks. -/
def parts (isMark : Char → Bool) (text : List Char) : List (List Char) :=
  partsFrom isMark [] [] text

end EventFlow.Text
