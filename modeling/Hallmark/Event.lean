/-
# Hallmark.Event -- what happened on the way to an answer

Loading, searching and matching report events next to their result.  `Traced` is such a
result: the events in order, and an answer or a fault; events before a fault are kept.
-/
import Hallmark.Descriptor

namespace Hallmark

set_option autoImplicit false

open Document Query

inductive Level where
  | debug
  | warning
deriving DecidableEq, Repr

def Level.name : Level → String
  | .debug => "DEBUG"
  | .warning => "WARNING"

inductive Event where
  | loaded (entities types : Nat)
  | found (type : String) (depth : Nat)
  | revisited (type : String)
  | abandoned (limit : Value) (type : String)
  | noMetadata (entity query : String)
  | kindRejected (kind wanted : String)
  | malformed (condition : Property)
  | missing (name kind : String)
  | different (name : String) (actual : Option String) (wanted : String)
  | selected (count : Nat) (query : String)
deriving Repr

namespace Event

def level : Event → Level
  | .abandoned _ _ => .warning
  | _ => .debug

/-- A value that may be absent, in its literal form. -/
def optionLiteral (value : Option String) : String :=
  (value.map Text.quoted).getD "None"

def message : Event → String
  | .loaded entities types =>
    "Loaded annotation graph: " ++ toString entities ++ " entities, " ++ toString types ++ " types"
  | .found type depth => "Metadata found on " ++ type ++ " at depth " ++ toString depth
  | .revisited type => "Skipping already visited annotation type " ++ type
  | .abandoned limit type =>
    "Metadata search exceeded max_depth=" ++ limit.display ++ " at " ++ type ++ "; path abandoned"
  | .noMetadata entity query => "No metadata on " ++ entity ++ "; '" ++ query ++ "' does not match"
  | .kindRejected kind wanted => "Kind '" ++ kind ++ "' rejected by '" ++ wanted ++ "'"
  | .malformed p =>
    "Malformed predicate " ++ call "PropertyPredicate"
      ["name=" ++ Text.quoted p.name, "value=" ++ optionLiteral p.value] ++ " never matches"
  | .missing name kind => "Property '" ++ name ++ "' missing from " ++ kind
  | .different name actual wanted =>
    "Property '" ++ name ++ "' is " ++ optionLiteral actual ++ ", wanted " ++ Text.quoted wanted
  | .selected count query => "Selected " ++ toString count ++ " entities for '" ++ query ++ "'"

end Event

structure Traced (ε α : Type) where
  events : List Event
  answer : Except ε α

namespace Traced

variable {ε δ α β : Type}

def bind (t : Traced ε α) (next : α → Traced ε β) : Traced ε β :=
  match t.answer with
  | .error e => ⟨t.events, .error e⟩
  | .ok a =>
    let rest := next a
    ⟨t.events ++ rest.events, rest.answer⟩

instance : Monad (Traced ε) where
  pure a := ⟨[], .ok a⟩
  bind := bind

def report (e : Event) : Traced ε Unit := ⟨[e], .ok ()⟩

def ofExcept (answer : Except ε α) : Traced ε α := ⟨[], answer⟩

def mapError (f : ε → δ) (t : Traced ε α) : Traced δ α := ⟨t.events, t.answer.mapError f⟩

/-! The answer of a traced computation is that of the computation without its events. -/

@[simp] theorem answer_bind (t : Traced ε α) (next : α → Traced ε β) :
    (t >>= next).answer = t.answer >>= fun a => (next a).answer := by
  change (Traced.bind t next).answer = _
  unfold Traced.bind
  cases t.answer <;> rfl

@[simp] theorem answer_pure (a : α) : (pure a : Traced ε α).answer = .ok a := rfl

@[simp] theorem answer_map (f : α → β) (t : Traced ε α) : (f <$> t).answer = f <$> t.answer := by
  change (Traced.bind t (pure ∘ f)).answer = _
  unfold Traced.bind
  cases t.answer <;> rfl

@[simp] theorem answer_ofExcept (answer : Except ε α) : (ofExcept answer).answer = answer := rfl

@[simp] theorem answer_report (e : Event) : (report e : Traced ε Unit).answer = .ok () := rfl

end Traced

end Hallmark
