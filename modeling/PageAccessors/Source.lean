import PageAccessors.AccessorClass
import PageAccessors.Source.Literal
import PageAccessors.Text.Blank

/-!
# Sources

The Kotlin source of an accessor class, line by line: the header as comments, the package, the
imports, and the class with its initializer and one line for each member, a blank line between any
two of them. Comments have no blanks at their ends, and the last line is ended like the others.
-/

namespace PageAccessors

namespace Source

/-- A line of the header as a comment. -/
def commentLine (line : List Char) : String :=
  if line.all Text.isBlank then "//" else "// " ++ String.ofList (Text.trimEnd line)

/-- The comment at the top of a source, and the blank line below it. -/
def headerLines (header : String) : List String :=
  if header.isEmpty then [] else (Text.lines header.toList).map commentLine ++ [""]

/-- The literal of a template, with the parameters filled in when it is evaluated. -/
def templateLiteral (t : Template) : String :=
  let part : Segment → List Char
    | .literal text => escape text.toList
    | .placeholder name => ['$', '\x7b'] ++ name.toList ++ ['\x7d']
  String.ofList ('"' :: t.segments.flatMap part ++ ['"'])

/-- The expression that says how a function looks its element up. -/
def byExpression (strategy : Strategy) (argument : String) : String :=
  match strategy.byFactory? with
  | some factory => "By." ++ factory ++ "(" ++ argument ++ ")"
  | none => "ByIdOrName(" ++ argument ++ ")"

def propertyLine (p : Property) : String :=
  let type := p.locator.cardinality.typeName
  "  public val " ++ p.name.text ++ ": " ++ type ++ " by " ++ p.locator.strategy.delegate ++
    "<" ++ type ++ ">(" ++ quoted p.locator.value ++ ")"

def functionLine (f : Function) : String :=
  let params := ", ".intercalate (f.params.map fun p => p.text ++ ": String")
  "  public fun " ++ f.name.text ++ "(" ++ params ++ "): WebElement = findElement(" ++
    byExpression f.strategy (templateLiteral f.template) ++ ")"

def memberLine : Member → String
  | .property p => propertyLine p
  | .function f => functionLine f

/-- The lines that open an address when the class is made. -/
def initializerLines (url : String) : List String :=
  ["  init \x7b", "    get(" ++ quoted url ++ ")", "  \x7d"]

/-- The blocks of a class's body: its initializer, then its members. -/
def blocks (c : AccessorClass) : List (List String) :=
  c.initializer.toList.map initializerLines ++ c.members.map fun m => [memberLine m]

/-- The lines of some imports, and the blank line below them. -/
def importLines (imports : List String) : List String :=
  if imports.isEmpty then [] else imports.map ("import " ++ ·) ++ [""]

/-- The lines of a class's source. -/
def classLines (c : AccessorClass) : List String :=
  headerLines c.header ++ ["package " ++ c.package, ""] ++ importLines c.imports ++
    ["context(WebDriver)", "public class " ++ c.name.text ++ " \x7b"] ++
    [""].intercalate (blocks c) ++ ["\x7d"]

end Source

/-- The source text of a class. -/
def AccessorClass.source (c : AccessorClass) : String :=
  String.join ((Source.classLines c).map (· ++ "\n"))

end PageAccessors
