/-
# Hallmark.Proofs.CommandLine.Switches -- what an argument is, and what a switch takes

An argument is classified by itself, until a divider makes operands of everything behind it.  So
an operand that is plain can be put behind arguments, or in the place of an operand, and the other
tokens stay (`Grammar.tokens_append`, `Grammar.tokens_replace`).

A switch looks at the argument behind it only for a value that it needs and that it has not in its
own argument.  Where it has taken none, anything can stand behind it (`switchBundle_congr`).
-/
import Hallmark.CommandLine.Arguments
import Hallmark.Failure

namespace Hallmark.CommandLine

set_option autoImplicit false

/-- A text that is no switch, whatever the switches are. -/
def IsPlain (s : String) : Prop := ∀ c rest, s.toList ≠ '-' :: c :: rest

variable {g f : Grammar} {query : String}

/-! ## Classification -/

namespace Grammar

theorem classify_of_isPlain (plain : IsPlain query) : g.classify query = .ok .operand := by
  unfold classify
  dsimp only
  split
  · rename_i c rest written
    exact absurd written (plain c rest)
  · rfl

theorem classify_congr (same : f.switches = g.switches) (written : String) :
    f.classify written = g.classify written := by
  simp only [classify, switch?, classifyLong, classifyShort, short?, fullForm?, same]

/-- What is recognized is a switch. -/
theorem shape_of_switch? {cs : List Char} {shape : Shape} (found : g.switch? cs = .ok (some shape)) :
    ∃ s isShort value, shape = .switch s isShort value := by
  unfold switch? at found
  split at found
  · cases found
    exact ⟨_, _, _, rfl⟩
  · dsimp only at found
    split at found
    · cases found
      exact ⟨_, _, _, rfl⟩
    · split at found
      · unfold classifyLong at found
        dsimp only at found
        split at found
        · cases found
        · cases found
          exact ⟨_, _, _, rfl⟩
        · cases found
      · obtain ⟨s, -, rfl⟩ := Option.map_eq_some_iff.1 (Except.ok.inj found)
        exact ⟨_, _, _, rfl⟩
      · cases found

theorem classify_ne_divider {written : String} : g.classify written ≠ .ok .divider := by
  intro classified
  unfold classify at classified
  dsimp only at classified
  split at classified
  · obtain ⟨found, looked, same⟩ := map_eq_ok_iff.1 classified
    cases found with
    | none => split at same <;> cases same
    | some shape =>
      cases same
      obtain ⟨_, _, _, same⟩ := shape_of_switch? looked
      cases same
  · cases classified

theorem ne_divider_of_isPlain (plain : IsPlain query) : query ≠ "--" := by
  rintro rfl
  exact plain '-' [] rfl

theorem tokens_cons (plain : IsPlain query) (rest : List String) :
    g.tokens (query :: rest) = (⟨query, .operand⟩ :: ·) <$> g.tokens rest := by
  rw [tokens, if_neg (ne_divider_of_isPlain plain), classify_of_isPlain plain]
  cases g.tokens rest <;> rfl

/-- A token is an argument with its shape, and a divider ends the classification. -/
theorem tokens_cons_eq_ok_iff {written : String} {rest : List String} {tokens : List Token} :
    g.tokens (written :: rest) = .ok tokens ↔
      written = "--" ∧ tokens = ⟨written, .divider⟩ :: rest.map (⟨·, .operand⟩) ∨
      written ≠ "--" ∧ ∃ shape others, g.classify written = .ok shape ∧ g.tokens rest = .ok others ∧
        tokens = ⟨written, shape⟩ :: others := by
  rw [Grammar.tokens]
  split
  · rename_i divider
    simp [divider, eq_comm]
  · rename_i other
    simp only [other, false_and, false_or, ne_eq, not_false_eq_true, true_and, bind_eq_ok_iff,
      exists_and_left]
    refine exists_congr fun shape => and_congr_right fun _ => exists_congr fun others =>
      and_congr_right fun _ => ?_
    exact ⟨fun same => (Except.ok.inj same).symm, fun same => same ▸ rfl⟩

theorem tokens_congr (same : f.switches = g.switches) (arguments : List String) :
    f.tokens arguments = g.tokens arguments := by
  induction arguments with
  | nil => rfl
  | cons written rest ih => rw [Grammar.tokens, Grammar.tokens, classify_congr same, ih]

theorem written_of_tokens {arguments : List String} : ∀ {tokens : List Token},
    g.tokens arguments = .ok tokens → tokens.map (·.written) = arguments := by
  induction arguments with
  | nil =>
    intro tokens classified
    cases classified
    rfl
  | cons written rest ih =>
    intro tokens classified
    obtain ⟨-, rfl⟩ | ⟨-, shape, others, -, later, rfl⟩ := tokens_cons_eq_ok_iff.1 classified
    · simp [Function.comp_def]
    · rw [List.map_cons, ih later]

theorem divider_of_tokens {arguments : List String} : ∀ {tokens : List Token},
    g.tokens arguments = .ok tokens → ∀ t ∈ tokens, t.shape = .divider → t.written = "--" := by
  induction arguments with
  | nil =>
    intro tokens classified
    cases classified
    nofun
  | cons written rest ih =>
    intro tokens classified t member divider
    obtain ⟨divides, rfl⟩ | ⟨-, shape, others, first, later, rfl⟩ :=
      tokens_cons_eq_ok_iff.1 classified
    · rcases List.mem_cons.1 member with rfl | member
      · exact divides
      · obtain ⟨_, -, rfl⟩ := List.mem_map.1 member
        cases divider
    · rcases List.mem_cons.1 member with rfl | member
      · exact absurd (first.trans (congrArg _ divider)) classify_ne_divider
      · exact ih later t member divider

/-- A plain argument behind others is one more operand. -/
theorem tokens_append {arguments : List String} (plain : IsPlain query) :
    ∀ {tokens : List Token}, g.tokens arguments = .ok tokens →
      g.tokens (arguments ++ [query]) = .ok (tokens ++ [⟨query, .operand⟩]) := by
  induction arguments with
  | nil =>
    intro tokens classified
    cases classified
    rw [List.nil_append, tokens_cons plain]
    rfl
  | cons written rest ih =>
    intro tokens classified
    refine tokens_cons_eq_ok_iff.2 ?_
    obtain ⟨divider, rfl⟩ | ⟨other, shape, others, first, later, rfl⟩ :=
      tokens_cons_eq_ok_iff.1 classified
    · exact .inl ⟨divider, by simp⟩
    · exact .inr ⟨other, shape, _, first, ih later, rfl⟩

/-- In the place of an operand another one can stand. -/
theorem tokens_replace {name other : String} {after : List Token} (plain : IsPlain other)
    {globals : List Token} : ∀ {arguments : List String},
      g.tokens arguments = .ok (globals ++ ⟨name, .operand⟩ :: after) →
        g.tokens (globals.map (·.written) ++ other :: after.map (·.written)) =
          .ok (globals ++ ⟨other, .operand⟩ :: after) := by
  induction globals with
  | nil =>
    intro arguments classified
    cases arguments with
    | nil => cases classified
    | cons written rest =>
      obtain ⟨-, same⟩ | ⟨-, shape, others, first, classified, same⟩ :=
        tokens_cons_eq_ok_iff.1 classified
      · cases same
      · cases same
        rw [List.map_nil, List.nil_append, tokens_cons plain, written_of_tokens classified, classified]
        rfl
  | cons t globals ih =>
    intro arguments classified
    cases arguments with
    | nil => cases classified
    | cons written rest =>
      refine tokens_cons_eq_ok_iff.2 ?_
      obtain ⟨divides, same⟩ | ⟨undivided, shape, others, first, later, same⟩ :=
        tokens_cons_eq_ok_iff.1 classified
      · obtain ⟨rfl, behind⟩ := List.cons.inj same
        obtain ⟨before, _, rfl, rfl, named⟩ := List.map_eq_append_iff.1 behind.symm
        obtain ⟨_, later, rfl, -, rfl⟩ := List.map_eq_cons_iff.1 named
        exact .inl ⟨divides, by simp [Function.comp_def]⟩
      · obtain ⟨rfl, rfl⟩ := List.cons.inj same
        exact .inr ⟨undivided, shape, _, first, ih later, rfl⟩

/-! ## Switches -/

theorem bare_congr {s : Switch} {next other : Option String} {b : Bundle}
    (done : bare s next = .ok b) (kept : b.takesNext = true → other = next) :
    bare s other = .ok b := by
  unfold bare at done ⊢
  split at done
  · rename_i valued
    rw [if_pos valued]
    cases next with
    | none => cases done
    | some value =>
      cases done
      rw [kept rfl]
  · rename_i valueless
    rw [if_neg valueless]
    exact done

/-- A switch takes what stands behind it as its value, or stands before other short forms. -/
theorem bundle_cons_eq_ok_iff {s : Switch} {isShort : Bool} {next : Option String} {c : Char}
    {rest : List Char} {b : Bundle} : g.bundle s isShort next (c :: rest) = .ok b ↔
      s.takesValue = true ∧ b = ⟨[(s, writtenValue (c :: rest))], false⟩ ∨
      s.takesValue = false ∧ ∃ t others, (if isShort then g.short? c else none) = some t ∧
        (if rest.isEmpty then bare t next else g.bundle t true next rest) = .ok others ∧
        b = { others with switches := (s, none) :: others.switches } := by
  rw [bundle]
  dsimp only
  cases s.takesValue with
  | true =>
    simp only [if_true, Except.ok.injEq, true_and, Bool.true_eq_false, false_and, or_false]
    exact eq_comm
  | false =>
    simp only [Bool.false_eq_true, if_false, false_and, false_or, true_and]
    cases (if isShort then g.short? c else none) with
    | none => simp
    | some t =>
      simp only [Option.some.injEq, exists_and_left, exists_eq_left']
      have returned : ∀ {x : Except UsageError Bundle}, (do
          let others ← x
          return { others with switches := (s, none) :: others.switches }) = .ok b ↔
          ∃ others, x = .ok others ∧
            b = { others with switches := (s, none) :: others.switches } := fun {x} =>
        bind_eq_ok_iff.trans (exists_congr fun others => and_congr_right fun _ =>
          ⟨fun same => (Except.ok.inj same).symm, fun same => same ▸ rfl⟩)
      cases rest.isEmpty with
      | true => exact returned
      | false => exact returned

theorem bundle_congr (same : f.switches = g.switches) {next other : Option String} {cs : List Char} :
    ∀ {s : Switch} {isShort : Bool} {b : Bundle}, g.bundle s isShort next cs = .ok b →
      (b.takesNext = true → other = next) → f.bundle s isShort other cs = .ok b := by
  induction cs with
  | nil => exact fun done _ => done
  | cons c rest ih =>
    intro s isShort b done kept
    have shorts : f.short? c = g.short? c := by rw [short?, short?, same]
    rcases bundle_cons_eq_ok_iff.1 done with valued | ⟨valueless, t, others, found, read, rfl⟩
    · exact bundle_cons_eq_ok_iff.2 (.inl valued)
    · refine bundle_cons_eq_ok_iff.2 (.inr ⟨valueless, t, others, shorts ▸ found, ?_, rfl⟩)
      split at read
      · rename_i last
        rw [if_pos last]
        exact bare_congr read kept
      · rename_i more
        rw [if_neg more]
        exact ih read kept

/-- What follows is looked at only for a value that is taken. -/
theorem switchBundle_congr (same : f.switches = g.switches) {s : Switch} {isShort : Bool}
    {value : Option (List Char)} {rest others : List Token} {b : Bundle}
    (done : g.switchBundle s isShort value rest = .ok b)
    (kept : b.takesNext = true → valueIn others = valueIn rest) :
    f.switchBundle s isShort value others = .ok b := by
  unfold switchBundle at done ⊢
  cases value with
  | none => exact mapError_eq_ok_iff.2 (bare_congr (mapError_eq_ok_iff.1 done) kept)
  | some cs => exact mapError_eq_ok_iff.2 (bundle_congr same (mapError_eq_ok_iff.1 done) kept)

theorem takesNext_bare {s : Switch} {next : Option String} {b : Bundle}
    (done : bare s next = .ok b) (taken : b.takesNext = true) : next.isSome = true := by
  unfold bare at done
  split at done
  · cases next with
    | none => cases done
    | some value => rfl
  · cases done
    cases taken

theorem takesNext_bundle {next : Option String} {cs : List Char} : ∀ {s : Switch} {isShort : Bool}
    {b : Bundle}, g.bundle s isShort next cs = .ok b → b.takesNext = true → next.isSome = true := by
  induction cs with
  | nil =>
    intro s isShort b done taken
    rw [bundle] at done
    split at done
    · cases done
      cases taken
    · cases done
  | cons c rest ih =>
    intro s isShort b done taken
    rcases bundle_cons_eq_ok_iff.1 done with ⟨-, rfl⟩ | ⟨-, t, others, -, read, rfl⟩
    · cases taken
    · split at read
      · exact takesNext_bare read taken
      · exact ih read taken

/-- A value that is taken from what follows is there. -/
theorem takesNext_switchBundle {s : Switch} {isShort : Bool} {value : Option (List Char)}
    {rest : List Token} {b : Bundle} (done : g.switchBundle s isShort value rest = .ok b)
    (taken : b.takesNext = true) : (valueIn rest).isSome = true := by
  unfold switchBundle at done
  cases value with
  | none => exact takesNext_bare (mapError_eq_ok_iff.1 done) taken
  | some cs => exact takesNext_bundle (mapError_eq_ok_iff.1 done) taken

/-- Switches that are noted leave the rest of a reading alone. -/
theorem perform_spec {l : List (Switch × Option String)} :
    ∀ {r s : Reading}, g.perform r l = .ok s → f.perform r l = .ok s ∧
      s.operands = r.operands ∧ s.extras = r.extras ∧ s.command = r.command := by
  induction l with
  | nil =>
    intro r s done
    cases done
    exact ⟨rfl, rfl, rfl, rfl⟩
  | cons e rest ih =>
    intro r s done
    rw [perform] at done ⊢
    split at done
    · cases done
    · cases done
    · exact ih done

end Grammar

end Hallmark.CommandLine
