/-
# Hallmark.Query.Expression -- queries

A query is a kind followed by groups, each of which names a property and may give the
value that it must have.  The kind is the text before the first `[`, and `*` stands for
every kind.  Every text is a query: malformed groups are passed over, and a group
without a name can never be satisfied.
-/
import Hallmark.Query.Property
import Hallmark.Query.Group

namespace Hallmark.Query

set_option autoImplicit false

/-- The query that matches everything without looking at metadata. -/
def matchAll : String := "!dont-match!"

def anyKind : String := "*"

namespace Property

/-- A condition without a name holds of nothing. -/
def isSatisfiable (p : Property) : Bool := p.name ≠ ""

end Property

structure Expression where
  kind : String
  conditions : List Property
deriving DecidableEq, Repr

namespace Expression

def ofText (s : String) : Expression :=
  let cs := s.toList
  { kind := String.ofList (cs.takeWhile (· ≠ '['))
    conditions :=
      (groups (cs.dropWhile (· ≠ '['))).map fun body => Property.ofText (String.ofList body) }

def acceptsEveryKind (e : Expression) : Bool := e.kind = anyKind

/-- Kinds are compared exactly. -/
def acceptsKind (e : Expression) (kind : String) : Bool :=
  e.acceptsEveryKind || e.kind = kind

end Expression

end Hallmark.Query
