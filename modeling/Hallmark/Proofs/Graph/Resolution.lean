/-
# Hallmark.Proofs.Graph.Resolution -- the attributes of an annotation in a graph

The attributes of an annotation are those that it is given, laid over the defaults of its type,
and handed out: the items of a list as a tuple, every other value as it is.  The defaults are
those that are declared, which for the metadata type are themselves laid over its own.

By `Dictionary.overlays_iff` this says what the outcome is, entry by entry.  Nothing changes when
it is given to the same type again: all names are there, in their places, and no list is left.
-/
import Hallmark.Proofs.Document.Dictionary
import Hallmark.Proofs.Document.Sameness
import Hallmark.Proofs.Graph.Shape

namespace Hallmark.Graph

set_option autoImplicit false

open Document Dictionary

/-! ## Handing out -/

/-- A value, and what is handed out for it. -/
inductive HandedOut : Value → Value → Prop where
  | list {v : Value} {items : List Value} (held : list? v = some items) : HandedOut v (.tuple items)
  | other {v : Value} (plain : list? v = none) : HandedOut v v

theorem settled_eq (v : Value) : v.settled =
    match list? v with
    | some items => .tuple items
    | none => v := by
  unfold Value.settled list?
  cases v.opened <;> rfl

theorem handedOut_iff {v w : Value} : HandedOut v w ↔ w = v.settled := by
  rw [settled_eq]
  constructor
  · rintro (held | plain)
    · rw [held]
    · rw [plain]
  · rintro rfl
    cases held : list? v with
    | some items => exact .list held
    | none => exact .other held

theorem settled_settled (v : Value) : v.settled.settled = v.settled := by
  cases held : list? v with
  | some items =>
    rw [settled_eq v, held]
    rfl
  | none =>
    have plain : v.settled = v := by rw [settled_eq, held]
    rw [plain, plain]

/-! ## Defaults -/

variable {entities types : Dictionary Value (List Annotation)}
  {defaults : Dictionary Value Attributes} {metadataType : Value} {g : Graph} {type : String}

/-- The values that the attributes of a type have where none are given. -/
def defaultsOf (g : Graph) (type : String) : Attributes := (g.defaults.get? (.text type)).getD []

theorem keyed_metadataDefaults : Keyed metadataDefaults := ⟨by decide, by decide⟩

theorem keyed_getD {d : Dictionary Value Attributes} (keyed : ∀ e ∈ d, Keyed e.2) (key : Value) :
    Keyed ((d.get? key).getD []) := by
  unfold Dictionary.get?
  cases found : d.find? (·.1 == key) with
  | none => exact ⟨distinct_nil, nofun⟩
  | some e => exact keyed e (List.mem_of_find?_eq_some found)

theorem defaultsOf_metadataType (built : complete entities types defaults (.text type) = .ok g) :
    g.defaultsOf type = metadataDefaults.merge ((defaults.get? (.text type)).getD []) := by
  cases built
  rw [defaultsOf, get?_put_eq, if_pos (Value.text_beq_iff.2 rfl)]
  rfl

theorem defaultsOf_of_ne (built : complete entities types defaults metadataType = .ok g)
    (other : metadataType ≠ .text type) : g.defaultsOf type = (defaults.get? (.text type)).getD [] := by
  unfold complete at built
  split at built
  · cases built
    rw [defaultsOf, get?_put_eq, if_neg (mt Value.beq_text_iff.1 other)]
  · cases built

theorem keyed_defaultsOf (built : complete entities types defaults metadataType = .ok g)
    (keyed : ∀ e ∈ defaults, Keyed e.2) (type : String) : Keyed (g.defaultsOf type) := by
  by_cases metadata : metadataType = .text type
  · subst metadata
    rw [defaultsOf_metadataType built]
    exact keyed_metadataDefaults.merge (keyed_getD keyed _)
  · rw [defaultsOf_of_ne built metadata]
    exact keyed_getD keyed _

/-! ## Resolving -/

variable {a : Annotation}

theorem resolve_eq (g : Graph) (a : Annotation) : g.resolve a =
    ((g.defaultsOf a.type).merge a.attributes).map fun e => (e.1, e.2.settled) := rfl

/-- What an annotation resolves to is what is handed out when it is laid over the defaults of its
type, and that only; it resolves to itself, and has a kind and properties if its type is the
metadata type. -/
theorem resolve_overlays (built : complete entities types defaults metadataType = .ok g)
    (declared : ∀ e ∈ defaults, Keyed e.2) (a : Annotation) (given : Keyed a.attributes) :
    (metadataType ≠ .text a.type →
      g.defaultsOf a.type = (defaults.get? (.text a.type)).getD []) ∧
    (metadataType = .text a.type → Overlays Eq metadataDefaults
      ((defaults.get? (.text a.type)).getD []) (g.defaultsOf a.type)) ∧
    (∀ r, Overlays HandedOut (g.defaultsOf a.type) a.attributes r ↔ r = g.resolve a) ∧
    g.resolve ⟨a.type, g.resolve a⟩ = g.resolve a ∧
    (metadataType = .text a.type → [.text "kind", .text "properties"] <+: (g.resolve a).keys) := by
  have handedOut : HandedOut = fun v w => w = v.settled :=
    funext fun _ => funext fun _ => propext handedOut_iff
  have keyed := keyed_defaultsOf built declared a.type
  refine ⟨defaultsOf_of_ne built, ?_, fun r => ?_, ?_, ?_⟩
  · rintro rfl
    rw [defaultsOf_metadataType built]
    simpa using overlays_merge metadataDefaults (keyed_getD declared _).distinct (f := id) fun _ => rfl
  · rw [handedOut, resolve_eq]
    exact overlays_iff keyed given
  · exact merge_map_merge keyed given settled_settled
  · rintro rfl
    rw [resolve_eq, keys_map, keys_merge _ given.distinct, defaultsOf_metadataType built,
      keys_merge _ (keyed_getD declared _).distinct, List.append_assoc]
    exact List.prefix_append _ _

/-! Metadata whose type declares a kind and a name that is a number: the properties are given, the
number is given as a truth value, which is the same name, and there is a new name. -/

namespace Overridden

def declared : Dictionary Value Attributes :=
  [(.text "m", [(.whole 1, .text "one"), (.text "kind", .list [.text "x"])])]

def graph : Graph where
  entities := []
  types := []
  defaults := [(.text "m",
    [(.text "kind", .list [.text "x"]), (.text "properties", .tuple []), (.whole 1, .text "one")])]

def note : Annotation where
  type := "m"
  attributes := [(.text "note", .list [.list []]), (.truth true, .none),
    (.text "properties", .list [.text "a"])]

theorem resolve_note :
    complete [] [] declared (.text "m") = .ok graph ∧
    Overlays HandedOut (graph.defaultsOf "m") note.attributes [
      (.text "kind", .tuple [.text "x"]), (.text "properties", .tuple [.text "a"]),
      (.whole 1, .none), (.text "note", .tuple [.list []])] ∧
    graph.resolve ⟨"m", graph.resolve note⟩ = graph.resolve note := by
  have built : complete [] [] declared (.text "m") = .ok graph := rfl
  have keyed : ∀ e ∈ declared, Keyed e.2 := by
    simpa [declared] using (⟨by decide, by decide⟩ : Keyed _)
  obtain ⟨-, -, outcome, again, -⟩ := resolve_overlays built keyed note ⟨by decide, by decide⟩
  exact ⟨built, (outcome _).2 rfl, again⟩

end Overridden

end Hallmark.Graph
