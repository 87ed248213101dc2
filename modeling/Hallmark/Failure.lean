/-
# Hallmark.Failure -- causes of failure

A `Fault` is a value used where no such value can be used: walked through without
having items, joined without being text, read as a number without being one.  The
surfaces of the library refuse bad input with errors of their own; `Failure` is either
of the two.
-/
import Hallmark.Document.Display
import Hallmark.Storage

namespace Hallmark

set_option autoImplicit false

open Document

inductive Fault where
  | notIterable (v : Value)
  | notKey (v : Value)
  | notMapping (v : Value)
  | unknownArgument (callee name : String)
  | notName (v : Value)
  | notJoinable (index : Nat) (v : Value)
  | notPrefix (v : Value)
  | notPrefixPart (v : Value)
  | unsized (v : Value)
  | incomparable (x y : Value)
  | notClass (name : String)
  | repeatedBase (name : String)
  | noLinearOrder (name : String)
  | noCommonLayout (name : String)
  | noMember (sort name : String)
  | notCallable (sort : String)
  | notContainer (v : Value)
  | notText (sort : String)
  | relativeModule (name : String)
  | encoding (bytes : Text.Utf8.Malformed)
  | numeral (base : Nat) (written : String)
  | decimal (written : String)
  | outOfRange (part : OutOfRange)
  | codePoint (n : Nat)
  | emptyNumeral
  | manyDigits (count : Nat)
  | unwritable
  | tooLarge
  | truthWord (word : String)
  | notMoment
  | notWritten (sort : String)
  | tooDeep
  | nulInPath
  | notPath (v : Value)
  | unknownLevel (name : String)
deriving Repr

/-- `n` in two hexadecimal digits. -/
def hexOctet (n : Nat) : String :=
  String.ofList (Decimal.padLeft 2 (Nat.toDigits 16 n))

def Text.Utf8.Reason.message : Text.Utf8.Reason → String
  | .start => "invalid start byte"
  | .continuation => "invalid continuation byte"
  | .unexpectedEnd => "unexpected end of data"

def Text.Utf8.Malformed.message (m : Text.Utf8.Malformed) : String :=
  let place :=
    if m.stop = m.start + 1 then
      "byte 0x" ++ hexOctet m.octet.toNat ++ " in position " ++ toString m.start
    else "bytes in position " ++ toString m.start ++ "-" ++ toString (m.stop - 1)
  "'utf-8' codec can't decode " ++ place ++ ": " ++ m.reason.message

def Document.OutOfRange.message : OutOfRange → String
  | .year n => "year " ++ toString n ++ " is out of range"
  | .month => "month must be in 1..12"
  | .day => "day is out of range for month"
  | .hour => "hour must be in 0..23"
  | .minute => "minute must be in 0..59"
  | .second => "second must be in 0..59"
  | .offset minutes =>
    "offset must be a timedelta strictly between -timedelta(hours=24) and timedelta(hours=24), not "
      ++ spanLiteral (minutes * 60) ++ "."

/-- A text between quotes, cut off after some characters. -/
def shortened (most : Nat) (s : String) : String := String.ofList ((Text.quoted s).toList.take most)

namespace Fault

/-- The refusal of whole numbers with too many digits. -/
def digitLimit (detail : String) : String :=
  "Exceeds the limit (" ++ toString Text.longestDecimal ++ " digits) for integer string conversion"
    ++ detail ++ "; use sys.set_int_max_str_digits() to increase the limit"

def message : Fault → String
  | .notIterable v => "'" ++ v.sortName ++ "' object is not iterable"
  | .notKey v => "unhashable type: '" ++ v.sortName ++ "'"
  | .notMapping v => "'" ++ v.sortName ++ "' object is not a mapping"
  | .unknownArgument callee name =>
    callee ++ ".__init__() got an unexpected keyword argument '" ++ name ++ "'"
  | .notName _ => "keywords must be strings"
  | .notJoinable index v =>
    "sequence item " ++ toString index ++ ": expected str instance, " ++ v.sortName ++ " found"
  | .notPrefix v =>
    "startswith first arg must be str or a tuple of str, not " ++ v.sortName
  | .notPrefixPart v => "tuple for startswith must only contain str, not " ++ v.sortName
  | .unsized v => "object of type '" ++ v.sortName ++ "' has no len()"
  | .incomparable x y =>
    "'<' not supported between instances of '" ++ x.sortName ++ "' and '" ++ y.sortName ++ "'"
  | .notClass name => name ++ " is not a class"
  | .repeatedBase name => "duplicate base class " ++ name
  | .noLinearOrder name => "no consistent order of the bases of " ++ name
  | .noCommonLayout name => "the bases of " ++ name ++ " have layouts of their own"
  | .noMember sort name => "'" ++ sort ++ "' object has no attribute '" ++ name ++ "'"
  | .notCallable sort => "'" ++ sort ++ "' object is not callable"
  | .notContainer v => "argument of type '" ++ v.sortName ++ "' is not iterable"
  | .notText sort => "__repr__ returned non-string (type " ++ sort ++ ")"
  | .relativeModule name =>
    "the 'package' argument is required to perform a relative import for " ++ Text.quoted name
  | .encoding m => m.message
  | .numeral base written =>
    "invalid literal for int() with base " ++ toString base ++ ": " ++ shortened 200 written
  | .decimal written => "could not convert string to float: " ++ Text.quoted written
  | .outOfRange part => part.message
  | .codePoint n =>
    if n < 0x80000000 then "chr() arg not in range(0x110000)"
    else "Python int too large to convert to C int"
  | .emptyNumeral => "string index out of range"
  | .manyDigits count => digitLimit (": value has " ++ toString count ++ " digits")
  | .unwritable => digitLimit ""
  | .tooLarge => "int too large to convert to float"
  | .truthWord word => Text.quoted word
  | .notMoment => "'NoneType' object has no attribute 'groupdict'"
  | .notWritten sort => "expected string or bytes-like object, got '" ++ sort ++ "'"
  | .tooDeep => "maximum recursion depth exceeded"
  | .nulInPath => "embedded null byte"
  | .notPath v => "expected str, bytes or os.PathLike object, not " ++ v.sortName
  | .unknownLevel name => "Level '" ++ name ++ "' does not exist"

end Fault

/-- A refusal of the surface that was used, or a fault underneath it. -/
inductive Failure (ε : Type) where
  | refused (e : ε)
  | fault (f : Fault)
deriving Repr

namespace Failure

def message {ε : Type} (shown : ε → String) : Failure ε → String
  | .refused e => shown e
  | .fault f => f.message

def map {ε δ : Type} (f : ε → δ) : Failure ε → Failure δ
  | .refused e => .refused (f e)
  | .fault x => .fault x

end Failure

/-! ## Computations that return -/

section Returns

universe u

variable {ε : Type} {α β : Type u}

theorem bind_eq_ok_iff {x : Except ε α} {next : α → Except ε β} {b : β} :
    x >>= next = .ok b ↔ ∃ a, x = .ok a ∧ next a = .ok b := by
  cases x with
  | error e =>
    constructor
    · intro fails
      cases fails
    · rintro ⟨a, fails, -⟩
      cases fails
  | ok a =>
    constructor
    · exact fun returned => ⟨a, rfl, returned⟩
    · rintro ⟨_, same, returned⟩
      cases same
      exact returned

theorem map_eq_ok_iff {f : α → β} {x : Except ε α} {b : β} :
    f <$> x = .ok b ↔ ∃ a, x = .ok a ∧ f a = b := by
  cases x with
  | error e =>
    constructor
    · intro fails
      cases fails
    · rintro ⟨a, fails, -⟩
      cases fails
  | ok a =>
    constructor
    · exact fun returned => ⟨a, rfl, Except.ok.inj returned⟩
    · rintro ⟨_, same, rfl⟩
      cases same
      rfl

theorem exists_map_iff {f : α → β} {x : Except ε α} :
    (∃ b, f <$> x = .ok b) ↔ ∃ a, x = .ok a := by
  simp only [map_eq_ok_iff]
  exact ⟨fun ⟨_, a, returned, _⟩ => ⟨a, returned⟩, fun ⟨a, returned⟩ => ⟨_, a, returned, rfl⟩⟩

/-- A list is gone through to its end if every item returns. -/
theorem exists_mapM_iff {α β : Type} {f : α → Except ε β} {l : List α} :
    (∃ bs, l.mapM f = .ok bs) ↔ ∀ a ∈ l, ∃ b, f a = .ok b := by
  induction l with
  | nil => exact ⟨fun _ a member => absurd member List.not_mem_nil, fun _ => ⟨[], rfl⟩⟩
  | cons a rest ih =>
    simp only [List.mapM_cons, bind_eq_ok_iff, List.forall_mem_cons, ← ih]
    constructor
    · rintro ⟨_, b, first, bs, others, -⟩
      exact ⟨⟨b, first⟩, bs, others⟩
    · rintro ⟨⟨b, first⟩, bs, others⟩
      exact ⟨b :: bs, b, first, bs, others, rfl⟩

/-- Whatever a list is gone through to comes from one of its items. -/
theorem exists_of_mem_mapM {α β : Type} {f : α → Except ε β} {l : List α} {bs : List β}
    (returned : l.mapM f = .ok bs) : ∀ b ∈ bs, ∃ a ∈ l, f a = .ok b := by
  induction l generalizing bs with
  | nil =>
    cases returned
    nofun
  | cons a rest ih =>
    simp only [List.mapM_cons, bind_eq_ok_iff] at returned
    obtain ⟨b, first, others, later, same⟩ := returned
    cases same
    refine List.forall_mem_cons.2 ⟨⟨a, List.mem_cons_self, first⟩, fun c member => ?_⟩
    obtain ⟨a', listed, made⟩ := ih later c member
    exact ⟨a', List.mem_cons_of_mem _ listed, made⟩

end Returns

/-! ## How computations end -/

section Ends

variable {ε δ α β : Type}

def Returns (x : Except ε α) : Prop := ∃ a, x = .ok a

instance decidableExistsOk (x : Except ε α) (p : α → Prop) [DecidablePred p] :
    Decidable (∃ a, x = .ok a ∧ p a) :=
  match x with
  | .ok a => decidable_of_iff (p a) (by simp)
  | .error _ => .isFalse nofun

instance decidableReturns (x : Except ε α) : Decidable (Returns x) :=
  match x with
  | .ok a => .isTrue ⟨a, rfl⟩
  | .error _ => .isFalse nofun

def Refuses (x : Except (Failure ε) α) : Prop := ∃ e, x = .error (.refused e)

def Faults (x : Except (Failure ε) α) : Prop := ∃ f, x = .error (.fault f)

instance decidableFaults (x : Except (Failure ε) α) : Decidable (Faults x) :=
  match x with
  | .ok _ => .isFalse nofun
  | .error (.refused _) => .isFalse nofun
  | .error (.fault f) => .isTrue ⟨f, rfl⟩

/-- When a computation returns, when it refuses and when it fails with a fault. -/
structure EndsAs (x : Except (Failure ε) α) (returned refused failed : Prop) : Prop where
  returns_iff : Returns x ↔ returned
  refuses_iff : Refuses x ↔ refused
  faults_iff : Faults x ↔ failed

theorem returns_iff_toOption {x : Except ε α} : Returns x ↔ x.toOption.isSome := by
  cases x <;> simp [Returns, Except.toOption]

@[simp]
theorem mapError_ok (f : ε → δ) (a : α) : (Except.ok a : Except ε α).mapError f = .ok a := rfl

@[simp]
theorem mapError_error (f : ε → δ) (e : ε) :
    (Except.error e : Except ε α).mapError f = .error (f e) := rfl

theorem mapError_eq_ok_iff {f : ε → δ} {x : Except ε α} {a : α} :
    x.mapError f = .ok a ↔ x = .ok a := by
  cases x <;> simp

theorem refuses_iff {x : Except (Failure ε) α} : Refuses x ↔ ¬ Returns x ∧ ¬ Faults x := by
  rcases x with (e | f) | a
  all_goals simp [Refuses, Returns, Faults]

theorem not_faults_pure {a : α} : ¬ Faults (pure a : Except (Failure ε) α) := by
  simp [Faults, pure, Except.pure]

theorem not_faults_mapError_refused {x : Except ε α} : ¬ Faults (x.mapError Failure.refused) := by
  cases x <;> simp [Faults]

theorem faults_mapError_fault_iff {x : Except Fault α} :
    Faults (x.mapError (Failure.fault (ε := ε))) ↔ ¬ Returns x := by
  cases x <;> simp [Faults, Returns]

theorem faults_bind_iff {x : Except (Failure ε) α} {next : α → Except (Failure ε) β} :
    Faults (x >>= next) ↔ Faults x ∨ ∃ a, x = .ok a ∧ Faults (next a) := by
  rcases x with (e | f) | a
  all_goals simp [Faults, bind, Except.bind]

/-- After a computation another one goes on, and only if the first returned. -/
theorem EndsAs.bind {x : Except (Failure ε) α} {next : α → Except (Failure ε) β}
    {returned refused failed returned' refused' failed' : Prop}
    (first : EndsAs x returned refused failed)
    (second : ∀ a, x = .ok a → EndsAs (next a) returned' refused' failed') :
    EndsAs (x >>= next) (returned ∧ returned') (refused ∨ returned ∧ refused')
      (failed ∨ returned ∧ failed') := by
  obtain ⟨returns, refuses, faults⟩ := first
  rw [← returns, ← refuses, ← faults]
  rcases x with (e | f) | a
  · constructor <;> simp [Returns, Refuses, Faults, Bind.bind, Except.bind]
  · constructor <;> simp [Returns, Refuses, Faults, Bind.bind, Except.bind]
  · obtain ⟨returns', refuses', faults'⟩ := second a rfl
    rw [← returns', ← refuses', ← faults']
    constructor <;> simp [Returns, Refuses, Faults, Bind.bind, Except.bind]

theorem EndsAs.congr {x : Except (Failure ε) α}
    {returned refused failed returned' refused' failed' : Prop}
    (ends : EndsAs x returned refused failed) (returns : returned ↔ returned')
    (refuses : refused ↔ refused') (faults : failed ↔ failed') :
    EndsAs x returned' refused' failed' :=
  ⟨ends.returns_iff.trans returns, ends.refuses_iff.trans refuses, ends.faults_iff.trans faults⟩

theorem endsAs_ok {a : α} : EndsAs (.ok a : Except (Failure ε) α) True False False := by
  constructor <;> simp [Returns, Refuses, Faults]

theorem endsAs_refused {e : ε} :
    EndsAs (.error (.refused e) : Except (Failure ε) α) False True False := by
  constructor <;> simp [Returns, Refuses, Faults]

theorem endsAs_fault {f : Fault} :
    EndsAs (.error (.fault f) : Except (Failure ε) α) False False True := by
  constructor <;> simp [Returns, Refuses, Faults]

/-- What cannot be refused returns or fails. -/
theorem endsAs_mapError_fault (x : Except Fault α) :
    EndsAs (x.mapError (Failure.fault (ε := ε))) (Returns x) False (¬ Returns x) := by
  cases x
  all_goals constructor <;> simp [Returns, Refuses, Faults]

/-- Going through a list ends at the first item that does not return. -/
theorem faults_mapM_iff {f : α → Except (Failure ε) β} {l : List α} :
    Faults (l.mapM f) ↔ ∃ before a after, l = before ++ a :: after ∧
      (∀ b ∈ before, Returns (f b)) ∧ Faults (f a) := by
  induction l with
  | nil => simp [Faults, pure, Except.pure]
  | cons a rest ih =>
    simp only [List.mapM_cons, faults_bind_iff, not_faults_pure, and_false, exists_false, or_false]
    constructor
    · rintro (fails | ⟨b, first, fails⟩)
      · exact ⟨[], a, rest, rfl, nofun, fails⟩
      · obtain ⟨before, c, after, rfl, returned, fails⟩ := ih.1 fails
        exact ⟨a :: before, c, after, rfl, List.forall_mem_cons.2 ⟨⟨b, first⟩, returned⟩, fails⟩
    · rintro ⟨before, c, after, split, returned, fails⟩
      cases before with
      | nil =>
        cases split
        exact .inl fails
      | cons d before =>
        cases split
        obtain ⟨⟨b, first⟩, others⟩ := List.forall_mem_cons.1 returned
        exact .inr ⟨b, first, ih.2 ⟨before, c, after, rfl, others, fails⟩⟩

end Ends

namespace Document.Value

/-- A value that can be written. -/
def written (v : Value) : Except Fault Value := if v.isWritable then .ok v else .error .unwritable

theorem exists_written_iff (v : Value) : (∃ w, v.written = .ok w) ↔ v.isWritable = true := by
  unfold Value.written
  split
  · rename_i writable
    exact ⟨fun _ => writable, fun _ => ⟨v, rfl⟩⟩
  · rename_i unwritable
    constructor
    · rintro ⟨w, fails⟩
      cases fails
    · exact fun writable => absurd writable unwritable

/-- The items of a value that has some. -/
def items (v : Value) : Except Fault (List Value) :=
  match v.items? with
  | some items => .ok items
  | .none => .error (.notIterable v)

theorem returns_items_iff (v : Value) : Returns v.items ↔ v.items?.isSome = true := by
  unfold items
  cases v.items? <;> simp [Returns]

end Document.Value

/-- The first item that is not text, with its place. -/
def firstNonText? : Nat → List Value → Option (Nat × Value)
  | _, [] => none
  | n, .text _ :: rest => firstNonText? (n + 1) rest
  | n, v :: _ => some (n, v)

/-- The texts in a list of which every item has to be text. -/
def allText (items : List Value) : Except Fault (List String) :=
  match firstNonText? 0 items with
  | some (n, v) => .error (.notJoinable n v)
  | none => .ok (items.filterMap Value.text?)

theorem firstNonText?_eq_none_iff {n : Nat} {l : List Value} :
    firstNonText? n l = none ↔ ∀ v ∈ l, ∃ s, v = .text s := by
  induction l generalizing n with
  | nil => exact ⟨fun _ => nofun, fun _ => rfl⟩
  | cons v rest ih =>
    rw [List.forall_mem_cons]
    cases v with
    | text s => rw [firstNonText?, ih, and_iff_right ⟨s, rfl⟩]
    | _ => simp [firstNonText?]

theorem returns_allText_iff {l : List Value} : Returns (allText l) ↔ ∀ v ∈ l, ∃ s, v = .text s := by
  rw [← firstNonText?_eq_none_iff (n := 0), allText]
  cases firstNonText? 0 l <;> simp [Returns]

/-- Where all that is kept back is text, leaving it out leaves whatever is no text. -/
theorem returns_allText_filter_iff {p : Value → Bool} {l : List Value}
    (kept : ∀ v, p v = true → ∃ s, v = .text s) :
    Returns (allText (l.filter (!p ·))) ↔ ∀ v ∈ l, ∃ s, v = .text s := by
  simp only [returns_allText_iff, List.mem_filter, Bool.not_eq_true', ← Bool.not_eq_true]
  constructor
  · intro texts v member
    by_cases left : p v = true
    · exact kept v left
    · exact texts v ⟨member, left⟩
  · exact fun texts v both => texts v both.1

def StorageFailure.message (shown : String) : StorageFailure → String
  | .missing => "[Errno 2] No such file or directory: " ++ Text.quoted shown
  | .folder => "[Errno 21] Is a directory: " ++ Text.quoted shown
  | .notFolder => "[Errno 20] Not a directory: " ++ Text.quoted shown
  | .nameTooLong => "[Errno 36] File name too long: " ++ Text.quoted shown

end Hallmark
