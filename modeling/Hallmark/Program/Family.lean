/-
# Hallmark.Program.Family -- what things of one family have in common

Every thing belongs to a family, and all things of a family have members of the same
names: texts can be cut and joined, numbers can be added, functions can be called.  Only
the names matter here, and the family of what stands under them, which decides which
members that has in turn.
-/
import Hallmark.Text.Split

namespace Hallmark.Program

set_option autoImplicit false

inductive Family where
  | text
  | whole
  | real
  | tuple
  | list
  | mapping
  /-- A mapping that cannot be changed. -/
  | table
  | nothing
  | function
  /-- A function as a member of a thing. -/
  | method
  /-- What can be done with a thing. -/
  | operation
  /-- What a sign such as `+` does with a thing. -/
  | sign
  /-- What can be done with the things of a class, as a member of the class. -/
  | unbound
  /-- Where the things of a class keep something, as a member of the class. -/
  | slot
  /-- What is computed for the things of a class, as a member of the class. -/
  | computed
  /-- The instructions of a function. -/
  | code
  | type
  /-- Classes of whole numbers. -/
  | wholeType
  /-- Classes of errors. -/
  | errorType
  | module
  /-- Things of which no more is known. -/
  | thing
deriving DecidableEq, Repr

/-- The words of a line. -/
def words (line : String) : List String :=
  ((Text.pieces ' ' line.toList).filter (· ≠ [])).map String.ofList

/-- Members, and the family of what stands under their names. -/
structure Trait where
  family : Family
  names : List String

namespace Family

/-! ## What every thing has -/

def commonSigns : List String :=
  words "__delattr__ __eq__ __ge__ __getattribute__ __gt__ __hash__ __init__ __le__ __lt__" ++
  words "__ne__ __repr__ __setattr__ __str__"

def commonOperations : List String :=
  words "__dir__ __format__ __getstate__ __reduce__ __reduce_ex__ __sizeof__"

/-- What can be done with the class of a thing. -/
def classOperations : List String := words "__init_subclass__ __new__ __subclasshook__"

def common : List Trait :=
  [⟨.sign, commonSigns⟩, ⟨.operation, commonOperations ++ classOperations⟩,
    ⟨.type, ["__class__"]⟩, ⟨.text, ["__doc__"]⟩]

/-! ## What the things of a family have besides -/

def textSigns : List String :=
  words "__add__ __contains__ __getitem__ __iter__ __len__ __mod__ __mul__ __rmod__ __rmul__"

def textOperations : List String :=
  words "__getnewargs__ capitalize casefold center count encode endswith expandtabs find" ++
  words "format format_map index isalnum isalpha isascii isdecimal isdigit isidentifier" ++
  words "islower isnumeric isprintable isspace istitle isupper join ljust lower lstrip" ++
  words "maketrans partition removeprefix removesuffix replace rfind rindex rjust" ++
  words "rpartition rsplit rstrip split splitlines startswith strip swapcase title" ++
  words "translate upper zfill"

def numberSigns : List String :=
  words "__abs__ __add__ __bool__ __divmod__ __float__ __floordiv__ __int__ __mod__ __mul__" ++
  words "__neg__ __pos__ __pow__ __radd__ __rdivmod__ __rfloordiv__ __rmod__ __rmul__" ++
  words "__rpow__ __rsub__ __rtruediv__ __sub__ __truediv__"

def numberOperations : List String :=
  words "__ceil__ __floor__ __getnewargs__ __round__ __trunc__ as_integer_ratio conjugate"

def wholeSigns : List String :=
  numberSigns ++
  words "__and__ __index__ __invert__ __lshift__ __or__ __rand__ __rlshift__ __ror__" ++
  words "__rrshift__ __rshift__ __rxor__ __xor__"

def wholeOperations : List String := numberOperations ++ words "bit_count bit_length to_bytes"

def wholeParts : List String := words "denominator imag numerator real"

def functionTraits : List Trait :=
  [⟨.mapping, words "__annotations__ __builtins__ __dict__ __globals__"⟩,
    ⟨.sign, words "__call__ __get__"⟩, ⟨.code, ["__code__"]⟩,
    ⟨.nothing, words "__closure__ __defaults__ __kwdefaults__"⟩,
    ⟨.text, words "__module__ __name__ __qualname__"⟩]

/-- What can be called as a member of a thing knows its names and the thing. -/
def boundTraits : List Trait :=
  [⟨.sign, ["__call__"]⟩, ⟨.text, words "__name__ __qualname__ __text_signature__"⟩]

/-- The members of a class are those of its things, which it only refers to, and its own. -/
def typeTraits : List Trait :=
  [⟨.unbound, commonSigns ++ commonOperations⟩,
    ⟨.operation, words "__instancecheck__ __prepare__ __subclasscheck__ __subclasses__ mro"⟩,
    ⟨.sign, words "__call__ __or__ __ror__"⟩, ⟨.tuple, words "__bases__ __mro__"⟩,
    ⟨.type, ["__base__"]⟩, ⟨.table, ["__dict__"]⟩, ⟨.nothing, ["__text_signature__"]⟩,
    ⟨.text, words "__module__ __name__ __qualname__"⟩,
    ⟨.whole, words "__basicsize__ __dictoffset__ __flags__ __itemsize__ __weakrefoffset__"⟩]

def own : Family → List Trait
  | .text => [⟨.sign, textSigns⟩, ⟨.operation, textOperations⟩]
  | .whole =>
    [⟨.sign, wholeSigns⟩, ⟨.operation, "from_bytes" :: wholeOperations⟩, ⟨.whole, wholeParts⟩]
  | .real =>
    [⟨.sign, numberSigns⟩,
      ⟨.operation, numberOperations ++ words "__getformat__ fromhex hex is_integer"⟩,
      ⟨.real, words "imag real"⟩]
  | .tuple =>
    [⟨.sign, words "__add__ __contains__ __getitem__ __iter__ __len__ __mul__ __rmul__"⟩,
      ⟨.operation, words "__class_getitem__ __getnewargs__ count index"⟩]
  | .list =>
    [⟨.sign, words "__add__ __contains__ __delitem__ __iadd__ __imul__ __iter__ __len__" ++
        words "__mul__ __rmul__ __setitem__"⟩,
      ⟨.operation, words "__class_getitem__ __getitem__ __reversed__ append clear copy count" ++
        words "extend index insert pop remove reverse sort"⟩,
      ⟨.nothing, ["__hash__"]⟩]
  | .mapping =>
    [⟨.sign, words "__delitem__ __ior__ __iter__ __len__ __or__ __ror__ __setitem__"⟩,
      ⟨.operation, words "__class_getitem__ __contains__ __getitem__ __reversed__ clear copy" ++
        words "fromkeys get items keys pop popitem setdefault update values"⟩,
      ⟨.nothing, ["__hash__"]⟩]
  | .table =>
    [⟨.sign, words "__contains__ __getitem__ __ior__ __iter__ __len__ __or__ __ror__"⟩,
      ⟨.operation, words "__class_getitem__ __reversed__ copy get items keys values"⟩,
      ⟨.nothing, words "__doc__ __hash__"⟩]
  | .nothing => [⟨.sign, ["__bool__"]⟩, ⟨.nothing, ["__doc__"]⟩]
  | .function => functionTraits
  | .method => functionTraits
  | .operation => ⟨.nothing, ["__module__"]⟩ :: boundTraits
  | .sign => ⟨.type, ["__objclass__"]⟩ :: boundTraits
  | .unbound => ⟨.type, ["__objclass__"]⟩ :: ⟨.sign, ["__get__"]⟩ :: boundTraits
  | .slot =>
    [⟨.sign, words "__delete__ __get__ __set__"⟩, ⟨.type, ["__objclass__"]⟩,
      ⟨.text, words "__name__ __qualname__"⟩]
  | .computed =>
    [⟨.function, ["fget"]⟩, ⟨.nothing, words "fdel fset"⟩,
      ⟨.operation, words "deleter getter setter"⟩, ⟨.sign, words "__delete__ __get__ __set__"⟩]
  | .code =>
    [⟨.text, words "co_filename co_name co_qualname"⟩,
      ⟨.whole, words "co_argcount co_firstlineno co_flags co_kwonlyargcount co_nlocals" ++
        words "co_posonlyargcount co_stacksize"⟩,
      ⟨.tuple, words "co_cellvars co_consts co_freevars co_names co_varnames"⟩,
      ⟨.operation, words "co_lines co_positions replace"⟩,
      ⟨.thing, words "co_code co_exceptiontable co_linetable co_lnotab"⟩]
  | .type => typeTraits
  | .wholeType =>
    [⟨.unbound, wholeSigns ++ wholeOperations⟩, ⟨.operation, ["from_bytes"]⟩,
      ⟨.slot, wholeParts⟩]
  | .errorType =>
    [⟨.unbound, words "__setstate__ add_note with_traceback"⟩,
      ⟨.slot, words "__cause__ __context__ __suppress_context__ __traceback__ args"⟩]
  | .module =>
    [⟨.mapping, words "__annotations__ __dict__"⟩, ⟨.text, words "__name__ __package__"⟩,
      ⟨.thing, words "__loader__ __spec__"⟩]
  | .thing => []

/-- What the things of a family have; those of the two special families of classes are
classes besides. -/
def traits : Family → List Trait
  | .wholeType => own .wholeType
  | .errorType => own .errorType
  | f => f.own ++ common

/-- Whether things of the family can take attributes. -/
def takesAttributes : Family → Bool
  | .function => true
  | .type => true
  | .wholeType => true
  | .errorType => true
  | .module => true
  | .thing => true
  | _ => false

/-- The family of the member of a name, if the things of a family have one. -/
def member? (f : Family) (name : String) : Option Family :=
  (f.traits.find? fun t => t.names.contains name).map (·.family)

end Family

end Hallmark.Program
