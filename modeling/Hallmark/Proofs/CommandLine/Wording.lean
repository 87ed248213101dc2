/-
# Hallmark.Proofs.CommandLine.Wording -- arguments for `match` from arguments for `find`

Both commands take the same switches, and `match` takes one operand more.  Where arguments ask for
`find`, the other name in its place and a query behind them ask `match` for the same with that
query (`Request.ofArguments_match`).  The query must be plain, or it would be read as a switch.

What is read of tokens is read of them with one more operand behind them as well, where one more
is wanted (`Grammar.readTokens_append`): nothing was left over, so the last of them that takes a
value has it, and no operand is still wanted.  And what is read before a command is read before
another one (`Grammar.readTokens_command`).
-/
import Hallmark.CommandLine.Request
import Hallmark.Proofs.CommandLine.Switches

namespace Hallmark.CommandLine

set_option autoImplicit false

open Document

variable {g f : Grammar} {query : String}

/-! ## Reading -/

theorem Reading.length_addOperand (r : Reading) (value : Option String) :
    (r.addOperand value).operands.length = r.operands.length + 1 := by
  simp [addOperand]

namespace Grammar

section Reading

variable {room : Nat} {r s : Reading} {written : String} {rest : List Token}

theorem readTokens_switch {t : Switch} {isShort : Bool} {value : Option (List Char)} :
    g.readTokens room r (⟨written, .switch t isShort value⟩ :: rest) = .ok s ↔
      ∃ b noted, g.switchBundle t isShort value rest = .ok b ∧ g.perform r b.switches = .ok noted ∧
        g.readTokens room noted (if b.takesNext then rest.tail else rest) = .ok s := by
  rw [readTokens]
  simp only [bind_eq_ok_iff, exists_and_left]
  refine exists_congr fun b => and_congr_right fun _ => exists_congr fun noted =>
    and_congr_right fun _ => ?_
  cases b.takesNext with
  | false => rfl
  | true => cases rest <;> rfl

/-- Reading goes on behind a switch, or behind its value. -/
theorem readTokens_switch_cases {t : Switch} {isShort : Bool} {value : Option (List Char)}
    (done : g.readTokens room r (⟨written, .switch t isShort value⟩ :: rest) = .ok s) :
    ∃ b noted, g.switchBundle t isShort value rest = .ok b ∧ g.perform r b.switches = .ok noted ∧
      (b.takesNext = false ∧ g.readTokens room noted rest = .ok s ∨
        ∃ first others, rest = first :: others ∧ b.takesNext = true ∧
          g.readTokens room noted others = .ok s) := by
  obtain ⟨b, noted, bundled, performed, done⟩ := readTokens_switch.1 done
  refine ⟨b, noted, bundled, performed, ?_⟩
  cases taken : b.takesNext with
  | false => exact .inl ⟨rfl, by simpa [taken] using done⟩
  | true =>
    cases rest with
    | nil => cases takesNext_switchBundle bundled taken
    | cons first others => exact .inr ⟨first, others, rfl, rfl, by simpa [taken] using done⟩

/-- What is left over stays left over, and no more operands are read than are wanted. -/
theorem readTokens_spec {tokens : List Token} (done : g.readTokens room r tokens = .ok s) :
    r.extras <+: s.extras ∧ s.operands.length ≤ r.operands.length + room := by
  have of_addExtra : ∀ {r : Reading} {written : String} {n : Nat},
      (r.addExtra written).extras <+: s.extras ∧
        s.operands.length ≤ (r.addExtra written).operands.length + n →
      r.extras <+: s.extras ∧ s.operands.length ≤ r.operands.length + n :=
    fun ⟨extras, operands⟩ => ⟨(List.prefix_append ..).trans extras, operands⟩
  have of_addOperand : ∀ {r : Reading} {value : Option String} {n : Nat},
      (r.addOperand value).extras <+: s.extras ∧
        s.operands.length ≤ (r.addOperand value).operands.length + n →
      r.extras <+: s.extras ∧ s.operands.length ≤ r.operands.length + n.succ := by
    rintro r value n ⟨extras, operands⟩
    rw [r.length_addOperand] at operands
    exact ⟨extras, by omega⟩
  induction room, r, tokens using Grammar.readTokens.induct (g := g) with
  | case1 room r =>
    rw [readTokens] at done
    cases done
    exact ⟨List.prefix_rfl, Nat.le_add_right _ _⟩
  | case2 room r written rest commands =>
    unfold readTokens at done
    rw [if_pos commands] at done
    cases done
    exact ⟨List.prefix_rfl, Nat.le_add_right _ _⟩
  | case3 r written leaf others ih =>
    rw [readTokens, if_neg leaf] at done
    exact of_addExtra (ih done)
  | case4 r written leaf room divider others ih =>
    rw [readTokens, if_neg leaf] at done
    exact of_addOperand (ih done)
  | case5 r written leaf room others undivided ih =>
    rw [readTokens, if_neg leaf] at done
    · exact of_addOperand (ih done)
    · exact undivided
  | case6 r written room next others ih =>
    rw [readTokens] at done
    exact of_addOperand (ih done)
  | case7 r written room others stray commands =>
    rw [readTokens, if_pos commands] at done
    · cases done
      exact ⟨List.prefix_rfl, Nat.le_add_right _ _⟩
    · exact stray
  | case8 r written room others stray leaf ih =>
    rw [readTokens, if_neg leaf] at done
    · exact of_addExtra (ih done)
    · exact stray
  | case9 room r written rest ih =>
    rw [readTokens] at done
    exact of_addExtra (ih done)
  | case10 room r written t isShort value rest ih =>
    obtain ⟨b, noted, -, performed, later⟩ := readTokens_switch_cases done
    obtain ⟨-, operands, kept, -⟩ := perform_spec (f := g) performed
    rw [← kept, ← operands]
    have ih := ih b noted
    rcases later with ⟨taken, done⟩ | ⟨first, others, rfl, taken, done⟩
    all_goals
      simp only [taken] at ih
      exact ih done

/-- Where nothing is left over in the end, no argument is left over on the way. -/
theorem false_of_addExtra {tokens : List Token}
    (done : g.readTokens room (r.addExtra written) tokens = .ok s) (nothing : s.extras = []) :
    False := by
  have before := List.prefix_nil.1 (nothing ▸ (readTokens_spec done).1)
  simp [Reading.addExtra] at before

theorem valueIn_cons (first : Token) (others : List Token) :
    valueIn (first :: others) = valueIn [first] := by
  obtain ⟨_, shape⟩ := first
  cases shape <;> rfl

theorem valueIn_append {next : Token} (present : (valueIn rest).isSome = true) :
    valueIn (rest ++ [next]) = valueIn rest := by
  cases rest with
  | nil => cases present
  | cons first others => rw [List.cons_append, valueIn_cons, ← valueIn_cons first others]

/-- If the operands that are wanted are there, one more is read where one more is wanted. -/
theorem readTokens_append (plain : IsPlain query) (leaf : g.commands = []) (leaf' : f.commands = [])
    (same : f.switches = g.switches) {tokens : List Token}
    (done : g.readTokens room r tokens = .ok s) (nothing : s.extras = [])
    (enough : r.operands.length + room ≤ s.operands.length) :
    f.readTokens (room + 1) r (tokens ++ [⟨query, .operand⟩]) =
      .ok (s.addOperand (some query)) := by
  have fewer : ∀ {r : Reading} {value : Option String} {n : Nat},
      r.operands.length + n.succ ≤ s.operands.length →
      (r.addOperand value).operands.length + n ≤ s.operands.length := by
    intro r value n enough
    rw [r.length_addOperand]
    omega
  have leaf_f : ¬ (!f.commands.isEmpty) = true := by simp [leaf']
  -- with one operand less in each call, so that nothing is wanted any more at the end
  induction room, r, tokens using Grammar.readTokens.induct (g := g) with
  | case1 room r =>
    rw [readTokens] at done
    cases done
    obtain rfl : room = 0 := by omega
    rw [List.nil_append, readTokens, if_neg leaf_f, if_neg (ne_divider_of_isPlain plain), readTokens]
    nofun
  | case2 room r written rest commands => simp [leaf] at commands
  | case3 r written leaf_g others ih =>
    rw [readTokens, if_neg leaf_g] at done
    exact (false_of_addExtra done nothing).elim
  | case4 r written leaf_g room divider others ih =>
    rw [readTokens, if_neg leaf_g] at done
    rw [List.cons_append, List.cons_append, readTokens, if_neg leaf_f]
    exact ih done (fewer enough)
  | case5 r written leaf_g room others undivided ih =>
    rw [readTokens, if_neg leaf_g] at done
    · rw [List.cons_append, readTokens, if_neg leaf_f]
      · exact ih done (fewer enough)
      · rintro divider rest divided
        rcases List.append_eq_cons_iff.1 divided with ⟨-, last⟩ | ⟨more, divided, -⟩
        · cases last
        · exact undivided _ _ divided
    · exact undivided
  | case6 r written room next others ih =>
    rw [readTokens] at done
    rw [List.cons_append, List.cons_append, readTokens]
    exact ih done (fewer enough)
  | case7 r written room others stray commands => simp [leaf] at commands
  | case8 r written room others stray leaf_g ih =>
    rw [readTokens, if_neg leaf_g] at done
    · exact (false_of_addExtra done nothing).elim
    · exact stray
  | case9 room r written rest ih =>
    rw [readTokens] at done
    exact (false_of_addExtra done nothing).elim
  | case10 room r written t isShort value rest ih =>
    obtain ⟨b, noted, bundled, performed, later⟩ := readTokens_switch_cases done
    obtain ⟨performed, operands, -, -⟩ := perform_spec (f := f) performed
    rw [← operands] at enough
    refine readTokens_switch.2 ⟨b, noted, switchBundle_congr same bundled fun taken =>
      valueIn_append (takesNext_switchBundle bundled taken), performed, ?_⟩
    have ih := ih b noted
    rcases later with ⟨taken, done⟩ | ⟨first, others, rfl, taken, done⟩
    all_goals
      simp only [taken] at ih
      simpa [taken] using ih done enough

/-- A command is the first operand that is no value of a switch; what is read before it does not
depend on what it is, nor on what stands behind it. -/
theorem readTokens_command (commands : g.commands ≠ []) {tokens : List Token} {name : String}
    {arguments : List String} (done : g.readTokens room r tokens = .ok s) (nothing : s.extras = [])
    (absent : r.command = none) (named : s.command = some (name, arguments))
    (dividers : ∀ t ∈ tokens, t.shape = .divider → t.written ≠ name) :
    ∃ globals after, tokens = globals ++ ⟨name, .operand⟩ :: after ∧
      after.map (·.written) = arguments ∧ ∀ other behind,
        g.readTokens room r (globals ++ ⟨other, .operand⟩ :: behind) =
          .ok { s with command := some (other, behind.map (·.written)) } := by
  have commands : (!g.commands.isEmpty) = true := by simpa using commands
  -- along the arguments up to the command, of which each is read for any that stand behind
  induction room, r, tokens using Grammar.readTokens.induct (g := g) with
  | case1 room r =>
    rw [readTokens] at done
    cases done
    cases absent.symm.trans named
  | case2 room r written rest _ =>
    unfold readTokens at done
    rw [if_pos commands] at done
    cases done
    cases named
    refine ⟨[], rest, rfl, rfl, fun other behind => ?_⟩
    unfold readTokens
    rw [List.nil_append]
    exact if_pos commands
  | case3 r written leaf => exact absurd commands leaf
  | case4 r written leaf => exact absurd commands leaf
  | case5 r written leaf => exact absurd commands leaf
  | case6 r written room next others ih =>
    rw [readTokens] at done
    obtain ⟨globals, after, rfl, after_eq, read⟩ := ih done absent fun t member =>
      dividers t (List.mem_cons_of_mem _ (List.mem_cons_of_mem _ member))
    refine ⟨⟨written, .divider⟩ :: next :: globals, after, rfl, after_eq, fun other behind => ?_⟩
    rw [List.cons_append, List.cons_append, readTokens, read]
  | case7 r written room others stray more =>
    rw [readTokens, if_pos more] at done
    · cases done
      cases named
      exact absurd rfl (dividers _ List.mem_cons_self rfl)
    · exact stray
  | case8 r written room others stray last ih =>
    rw [readTokens, if_neg last] at done
    · exact (false_of_addExtra done nothing).elim
    · exact stray
  | case9 room r written rest ih =>
    rw [readTokens] at done
    exact (false_of_addExtra done nothing).elim
  | case10 room r written t isShort value rest ih =>
    obtain ⟨b, noted, bundled, performed, later⟩ := readTokens_switch_cases done
    obtain ⟨-, -, -, kept⟩ := perform_spec (f := g) performed
    have ih := ih b noted
    rcases later with ⟨taken, done⟩ | ⟨first, others, rfl, taken, done⟩
    · simp only [taken] at ih
      obtain ⟨globals, after, rfl, after_eq, read⟩ := ih done (kept.trans absent) fun t member =>
        dividers t (List.mem_cons_of_mem _ member)
      refine ⟨⟨written, .switch t isShort value⟩ :: globals, after, rfl, after_eq,
        fun other behind => readTokens_switch.2 ⟨b, noted, switchBundle_congr rfl bundled ?_,
          performed, ?_⟩⟩
      · simp [taken]
      · simpa [taken] using read other behind
    · simp only [taken] at ih
      obtain ⟨globals, after, rfl, after_eq, read⟩ := ih done (kept.trans absent) fun t member =>
        dividers t (List.mem_cons_of_mem _ (List.mem_cons_of_mem _ member))
      refine ⟨⟨written, .switch t isShort value⟩ :: first :: globals, after, rfl, after_eq,
        fun other behind => readTokens_switch.2 ⟨b, noted, switchBundle_congr rfl bundled ?_,
          performed, ?_⟩⟩
      · exact fun _ => (valueIn_cons first _).trans (valueIn_cons first _).symm
      · simpa [taken] using read other behind

end Reading

theorem read_eq_ok_iff {arguments : List String} {r : Reading} : g.read arguments = .ok r ↔
    ∃ tokens, g.tokens arguments = .ok tokens ∧
      g.readTokens g.operands.length .empty tokens = .ok r ∧
      g.operands.length ≤ r.operands.length := by
  rw [read]
  simp only [bind_eq_ok_iff, mapError_eq_ok_iff]
  refine exists_congr fun tokens => and_congr_right fun _ => ?_
  constructor
  · rintro ⟨s, done, returned⟩
    split at returned
    · rename_i complete
      cases returned
      exact ⟨done, by simpa using complete⟩
    · cases returned
  · rintro ⟨done, complete⟩
    exact ⟨r, done, if_pos (by simpa using complete)⟩

/-- A plain argument behind those of a command is read as one more operand. -/
theorem read_append (plain : IsPlain query) (leaf : g.commands = []) (leaf' : f.commands = [])
    (same : f.switches = g.switches) (more : f.operands.length = g.operands.length + 1)
    {arguments : List String} {r : Reading} (done : g.read arguments = .ok r)
    (nothing : r.extras = []) : r.operands.length = g.operands.length ∧
      f.read (arguments ++ [query]) = .ok (r.addOperand (some query)) := by
  obtain ⟨tokens, classified, done, enough⟩ := read_eq_ok_iff.1 done
  have most : r.operands.length ≤ g.operands.length := by
    simpa [Reading.empty] using (readTokens_spec done).2
  have appended := readTokens_append plain leaf leaf' same done nothing
    (by simpa [Reading.empty] using enough)
  refine ⟨Nat.le_antisymm most enough, read_eq_ok_iff.2 ⟨_, ?_, more ▸ appended, ?_⟩⟩
  · rw [tokens_congr same]
    exact tokens_append plain classified
  · rw [Reading.length_addOperand, more]
    omega

end Grammar

/-! ## Requests -/

namespace Request

theorem commandOf_find (arguments : List String) : commandOf "find" arguments = (do
    let r ← Grammar.find.read arguments
    return (⟨.find, operandValue (r.operands[0]?.join),
      (r.value? graphFile.long).join.filter (· ≠ "")⟩, r.extras)) := rfl

theorem commandOf_match (arguments : List String) : commandOf "match" arguments = (do
    let r ← Grammar.match.read arguments
    return (⟨.compare (operandValue (r.operands[1]?.join)), operandValue (r.operands[0]?.join),
      (r.value? graphFile.long).join.filter (· ≠ "")⟩, r.extras)) := rfl

variable {name : String} {arguments : List String} {target : Value} {graph : Option String}

/-- No other command finds. -/
theorem name_of_commandOf {extras : List String}
    (accepted : commandOf name arguments = .ok (⟨.find, target, graph⟩, extras)) : name = "find" := by
  refine Decidable.byContradiction fun other => ?_
  simp only [commandOf, if_neg other] at accepted
  split at accepted
  · exact other rfl
  · obtain ⟨_, -, accepted⟩ := bind_eq_ok_iff.1 accepted
    obtain ⟨r, -, returned⟩ := bind_eq_ok_iff.1 accepted
    cases returned
  · cases accepted

/-- The other command is asked the same by the same arguments with a query behind them. -/
theorem commandOf_append (plain : IsPlain query)
    (accepted : commandOf "find" arguments = .ok (⟨.find, target, graph⟩, [])) :
    commandOf "match" (arguments ++ [query]) =
      .ok (⟨.compare (.text query), target, graph⟩, []) := by
  rw [commandOf_find] at accepted
  obtain ⟨r, done, returned⟩ := bind_eq_ok_iff.1 accepted
  simp only [pure, Except.pure, Except.ok.injEq, Prod.mk.injEq, Command.mk.injEq, true_and] at returned
  obtain ⟨⟨rfl, rfl⟩, nothing⟩ := returned
  obtain ⟨one, appended⟩ := Grammar.read_append (g := Grammar.find) (f := Grammar.match) plain
    rfl rfl rfl rfl done nothing
  have first : (r.addOperand (some query)).operands[0]? = r.operands[0]? :=
    List.getElem?_append_left (by simp [one, Grammar.find])
  have second : (r.addOperand (some query)).operands[1]? = some (some query) := by
    simp [Reading.addOperand, one, Grammar.find]
  have graph : (r.addOperand (some query)).value? graphFile.long = r.value? graphFile.long := rfl
  have extras : (r.addOperand (some query)).extras = [] := nothing
  rw [commandOf_match, appended]
  simp only [bind, Except.bind, pure, Except.pure, first, second, graph, extras, Option.join_some,
    operandValue]

theorem ofArguments_eq_ok_iff {arguments : List String} {settings : Option Value} {isVerbose : Bool}
    {command : Command} : ofArguments arguments = .ok ⟨settings, isVerbose, some command⟩ ↔
      ∃ r name rest, Grammar.main.read arguments = .ok r ∧ r.extras = [] ∧
        r.command = some (name, rest) ∧ commandOf name rest = .ok (command, []) ∧
        (r.value? settingsFile.long).map operandValue = settings ∧ r.has verbose.long = isVerbose := by
  constructor
  · intro accepted
    rw [ofArguments, bind_eq_ok_iff] at accepted
    obtain ⟨r, read, accepted⟩ := accepted
    cases named : r.command with
    | none =>
      simp only [named, pure_bind] at accepted
      split at accepted <;> cases accepted
    | some c =>
      simp only [named, bind_eq_ok_iff] at accepted
      obtain ⟨⟨command', extras⟩, commanded, _, returned, accepted⟩ := accepted
      cases returned
      split at accepted
      · rename_i complete
        cases accepted
        obtain ⟨nothing, rfl⟩ : r.extras = [] ∧ extras = [] := by simpa using complete
        exact ⟨r, _, _, read, nothing, named, commanded, rfl, rfl⟩
      · cases accepted
  · rintro ⟨r, name, rest, read, nothing, named, commanded, rfl, rfl⟩
    rw [ofArguments, bind_eq_ok_iff]
    refine ⟨r, read, ?_⟩
    simp [named, commanded, nothing, bind, Except.bind, pure, Except.pure]

/-- Arguments for `match` from arguments for `find`. -/
theorem ofArguments_match {settings : Option Value} {isVerbose : Bool}
    (accepted : ofArguments arguments = .ok ⟨settings, isVerbose, some ⟨.find, target, graph⟩⟩) :
    ∃ globals rest, arguments = globals ++ "find" :: rest ∧ ∀ query, IsPlain query →
      ofArguments (globals ++ "match" :: (rest ++ [query])) =
        .ok ⟨settings, isVerbose, some ⟨.compare (.text query), target, graph⟩⟩ := by
  obtain ⟨r, name, rest, read, nothing, named, commanded, same_settings, same_level⟩ :=
    ofArguments_eq_ok_iff.1 accepted
  obtain rfl := name_of_commandOf commanded
  obtain ⟨tokens, classified, read, -⟩ := Grammar.read_eq_ok_iff.1 read
  have dividers : ∀ t ∈ tokens, t.shape = .divider → t.written ≠ "find" := fun t member divider =>
    (Grammar.divider_of_tokens classified t member divider).symm ▸ (by decide)
  obtain ⟨globals, after, rfl, rfl, otherwise⟩ :=
    Grammar.readTokens_command (by simp [Grammar.main]) read nothing rfl named dividers
  have plain_match : IsPlain "match" := fun _ _ => by simp
  refine ⟨globals.map (·.written), after.map (·.written), ?_, fun query plain => ?_⟩
  · simpa using (Grammar.written_of_tokens classified).symm
  · have replaced := Grammar.tokens_append plain (Grammar.tokens_replace plain_match classified)
    have asked := otherwise "match" (after ++ [⟨query, .operand⟩])
    exact ofArguments_eq_ok_iff.2 ⟨_, "match", after.map (·.written) ++ [query],
      Grammar.read_eq_ok_iff.2 ⟨_, by simpa using replaced, asked, Nat.zero_le _⟩, nothing, by simp,
      commandOf_append plain commanded, same_settings, same_level⟩

example :
    ofArguments ["-v", "find", "app:C", "-m", "g.yaml"] =
      .ok ⟨none, true, some ⟨.find, .text "app:C", some "g.yaml"⟩⟩ ∧
    ofArguments ["-v", "match", "app:C", "-m", "g.yaml", "Service"] =
      .ok ⟨none, true, some ⟨.compare (.text "Service"), .text "app:C", some "g.yaml"⟩⟩ :=
  ⟨by cbv, by cbv⟩

end Request

end Hallmark.CommandLine
