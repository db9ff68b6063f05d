import Splice.Directive
import Splice.Text.Blank

/-!
# Lines of source

Everything the later stages ask about one line of source, read off its text alone.
-/

namespace Splice

/-- A line of source with what its text says about it. -/
structure Line where
  /-- The line without its ending. -/
  text : String
  /-- What follows the marker of a line comment, blanks included. -/
  comment : Option String
  /-- The line opens a block comment. -/
  beginsBlock : Bool
  /-- The line opens a documentation comment. -/
  beginsDoc : Bool
  /-- The line closes a block comment. -/
  endsBlock : Bool
  /-- The line closes a documentation comment. -/
  endsDoc : Bool
  /-- The directive in the line comment. -/
  directive : Option Directive
deriving DecidableEq, Repr

namespace Line

/-- Classifies a line of text.  Openers count after leading blanks only, closers anywhere. -/
def classify (text : String) (lexer : Directive.Lexer := Directive.lex) : Line :=
  let content := Text.trimStart text.toList
  let payload := Text.after? ['/', '/'] content
  { text
    comment := payload.map String.ofList
    beginsBlock := Text.beginsWith ['/', '*'] content
    beginsDoc := Text.beginsWith ['/', '*', '*'] content
    endsBlock := Text.contains ['*', '/'] text.toList
    endsDoc := Text.contains ['*', '*', '/'] text.toList
    directive := payload.bind fun payload => Directive.ofPayload? payload lexer }

/-- Whether the line is a line comment. -/
def isComment (line : Line) : Bool := line.comment.isSome

/-- Whether the line carries a `require`. -/
def isRequire (line : Line) : Bool := line.directive.any Directive.isRequire

/-- Whether the line carries a `provide`. -/
def isProvide (line : Line) : Bool := line.directive.any Directive.isProvide

/-- The name under which the line provides a location. -/
def label? (line : Line) : Option String := line.directive.bind Directive.label?

end Line

end Splice
