/-!
Text inside XML.

The five characters that mean something in XML are written as entities. The ampersand is
replaced first, so that the entities for the others stay as they are.
-/

namespace ScriptSuite.Text

/-- The entities, in the order in which they are put in. -/
def entities : List (Char × List Char) :=
  [ ('&', "&amp;".toList), ('<', "&lt;".toList), ('>', "&gt;".toList), ('"', "&quot;".toList),
    ('\'', "&apos;".toList) ]

/-- Replaces every occurrence of a character. -/
def replaceChar (c : Char) (by_ : List Char) (cs : List Char) : List Char :=
  cs.flatMap fun d => if d = c then by_ else [d]

/-- A text as it is written in XML. The ampersand is replaced first, since the other entities bring
new ones in. -/
def escapeXml (s : String) : String :=
  String.ofList (entities.foldl (fun cs entity => replaceChar entity.1 entity.2 cs) s.toList)

end ScriptSuite.Text
