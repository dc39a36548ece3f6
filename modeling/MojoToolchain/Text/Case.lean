/-!
# Letters of either case
-/

namespace MojoToolchain.Text

/-- Two texts are the same but for the case of letters of ASCII. -/
def sameButCase (s t : String) : Bool :=
  s.toList.map Char.toLower == t.toList.map Char.toLower

theorem sameButCase_comm (s t : String) :
  sameButCase s t = sameButCase t s
  := BEq.comm

end MojoToolchain.Text
