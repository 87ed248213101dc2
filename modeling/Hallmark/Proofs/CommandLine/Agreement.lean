/-
# Hallmark.Proofs.CommandLine.Agreement -- `find` and `match` tell of one descriptor

Both commands come to their target in the same way, and what they say follows from what the
search for it answers: `find` from the descriptor itself, `match` from whether the descriptor
satisfies the query.  Only the query `matchAll` is answered without it.

So the commands fail together.  And the page that `find` prints holds all that `match` looks at:
a property is written as the text from which it is read back, so a descriptor is the one that is
built from its own page (`Descriptor.ofValues_shown`), and a query is met if that one satisfies it
(`commands_agree`).

There are two exceptions.  A descriptor that the console cannot print makes `find` fail and not
`match`; and where nothing is found, `match` names the target and fails if it cannot be written,
while `find` does not name it.  The commands run one after the other, and what the files hold may
have to be loaded again; only the files that are named for them have to be loaded alike.
-/
import Hallmark.CommandLine.Run
import Hallmark.Proofs.CommandLine.Wording
import Hallmark.Proofs.Query.Spelling
import Hallmark.Proofs.Search.Likeness

namespace Hallmark

set_option autoImplicit false

open Document Query

namespace Descriptor

theorem satisfies_anyKind (d : Descriptor) : d.satisfies (Expression.ofText anyKind) = true := by
  rw [satisfies_iff]
  exact ⟨rfl, nofun⟩

end Descriptor

theorem Model.isRead_of_describe {E A T : Type} [DecidableEq T] {M : Model E A T} {c : Settings}
    {e : E} {d : Descriptor} (described : (M.describe c e).answer = .ok (some d)) : d.IsRead := by
  simp only [answer_describe, bind_eq_ok_iff] at described
  obtain ⟨-, -, found, -, described⟩ := described
  cases found with
  | none => cases described
  | some a =>
    obtain ⟨d', read, same⟩ := map_eq_ok_iff.1 described
    cases same
    obtain ⟨attributes, -, read⟩ := bind_eq_ok_iff.1 read
    exact Descriptor.isRead_of_ofAttributes read

namespace CommandLine

/-! ## What is printed -/

section Printing

variable {console : Console}

/-- Lines that can be printed are, and nothing is said of them. -/
theorem print_of_canPrint {lines : List String} (plain : ∀ l ∈ lines, console.canPrint l = true) :
    console.print lines = (String.join (lines.map (· ++ "\n")), none) := by
  induction lines with
  | nil => rfl
  | cons l rest ih =>
    obtain ⟨here, later⟩ := List.forall_mem_cons.1 plain
    rw [Console.print, if_pos here, ih later, List.map_cons, String.join_cons]
    rfl

/-- Of a line that cannot be printed something is said. -/
theorem exists_complaint {lines : List String} (unprinted : ¬ ∀ l ∈ lines, console.canPrint l = true) :
    ∃ output complaint, console.print lines = (output, some complaint) := by
  induction lines with
  | nil => exact absurd nofun unprinted
  | cons l rest ih =>
    rw [Console.print]
    split
    · rename_i here
      obtain ⟨output, complaint, printed⟩ :=
        ih fun later => unprinted (List.forall_mem_cons.2 ⟨here, later⟩)
      rw [printed]
      exact ⟨_, complaint, rfl⟩
    · exact ⟨_, _, rfl⟩

theorem canPrint_of_ascii {line : String} (ascii : (line.toList.all fun c => c.toNat < 128) = true) :
    console.canPrint line = true := by
  rw [List.all_eq_true] at ascii
  exact List.all_eq_true.2 fun c member =>
    console.encodes_ascii c (of_decide_eq_true (ascii c member))

theorem conclude_of_canPrint {shown : List String} {a : Answer}
    (plain : ∀ l ∈ a.lines, console.canPrint l = true) :
    conclude console shown (.ok a) = ⟨a.status, String.join (a.lines.map (· ++ "\n")), shown⟩ := by
  rw [conclude, print_of_canPrint plain]

theorem status_conclude_of_not_canPrint {shown : List String} {a : Answer}
    (unprinted : ¬ ∀ l ∈ a.lines, console.canPrint l = true) :
    (conclude console shown (.ok a)).status = 2 := by
  obtain ⟨output, complaint, printed⟩ := exists_complaint unprinted
  rw [conclude, printed]

/-- An answer that is the same for everything is printed. -/
theorem status_conclude_compared (shown : List String) (b : Bool) :
    (conclude console shown (.ok (compared b))).status = if b then 0 else 1 := by
  have plain : ∀ b, ∀ l ∈ (compared b).lines, (l.toList.all fun c => c.toNat < 128) = true := by
    decide
  rw [conclude_of_canPrint fun l member => canPrint_of_ascii (plain b l member)]
  cases b <;> rfl

theorem conclude_found_none (shown : List String) :
    conclude console shown (.ok (found none)) = ⟨1, "no metadata\n", shown⟩ := by
  have plain : ∀ l ∈ (found none).lines, (l.toList.all fun c => c.toNat < 128) = true := by decide
  rw [conclude_of_canPrint fun l member => canPrint_of_ascii (plain l member)]
  rfl

end Printing

/-! ## What a command says of a description -/

/-- The page on which a kind and the texts of properties are printed. -/
def page (kind : String) (texts : List String) : String :=
  String.join ((("kind: " ++ kind) :: texts.map ("  " ++ ·)).map (· ++ "\n"))

/-- Whether all that is said of a descriptor can be printed. -/
def Console.Shows (console : Console) (d : Descriptor) : Prop :=
  ∀ l ∈ (found (some d)).lines, console.canPrint l = true

theorem conclude_found_some {console : Console} {d : Descriptor} (shows : console.Shows d)
    (shown : List String) : conclude console shown (.ok (found (some d))) =
      ⟨0, page d.kind (d.properties.map Property.shown), shown⟩ := by
  have texts : (d.properties.map Property.shown).map ("  " ++ ·) =
      d.properties.map fun p => "  " ++ p.shown := List.map_map
  rw [conclude_of_canPrint shows, page, texts]
  rfl

theorem page_ne (kind : String) (texts : List String) : page kind texts ≠ "no metadata\n" := by
  intro same
  have first := congrArg (fun s : String => s.toList.head?) same
  simp [page] at first

/-- Lines without line feeds are told from the text in which a line feed ends each of them. -/
theorem lines_injective {lines others : List String} (plain : ∀ l ∈ lines, '\n' ∉ l.toList)
    (plain' : ∀ l ∈ others, '\n' ∉ l.toList)
    (same : String.join (lines.map (· ++ "\n")) = String.join (others.map (· ++ "\n"))) :
    lines = others := by
  have cut_line : ∀ {l : String} {rest : List String}, '\n' ∉ l.toList →
      Text.cut '\n' (String.join ((l :: rest).map (· ++ "\n"))).toList =
        (l.toList, some (String.join (rest.map (· ++ "\n"))).toList) := by
    intro l rest line
    have written : (String.join ((l :: rest).map (· ++ "\n"))).toList =
        l.toList ++ '\n' :: (String.join (rest.map (· ++ "\n"))).toList := by
      simp [String.join_cons]
    rw [written, Text.cut_append line]
  induction lines generalizing others with
  | nil =>
    cases others with
    | nil => rfl
    | cons l rest =>
      have cut := congrArg (fun s : String => Text.cut '\n' s.toList) same
      simp only [cut_line (plain' l List.mem_cons_self)] at cut
      exact nomatch (Prod.mk.inj cut).2
  | cons l lines ih =>
    cases others with
    | nil =>
      have cut := congrArg (fun s : String => Text.cut '\n' s.toList) same
      simp only [cut_line (plain l List.mem_cons_self)] at cut
      exact nomatch (Prod.mk.inj cut).2
    | cons l' rest =>
      rw [List.forall_mem_cons] at plain plain'
      have first := congrArg (fun s : String => Text.cut '\n' s.toList) same
      simp only [cut_line plain.1, cut_line plain'.1, Prod.mk.injEq, Option.some.injEq,
        String.toList_inj] at first
      rw [first.1, ih plain.2 plain'.2 first.2]

/-- A page tells the kind and the texts that are printed on it. -/
theorem page_injective {kind kind' : String} {texts texts' : List String}
    (plain : ∀ l ∈ kind :: texts, '\n' ∉ l.toList) (plain' : ∀ l ∈ kind' :: texts', '\n' ∉ l.toList)
    (same : page kind texts = page kind' texts') : kind = kind' ∧ texts = texts' := by
  have printed : ∀ {kind : String} {texts : List String}, (∀ l ∈ kind :: texts, '\n' ∉ l.toList) →
      ∀ l ∈ ("kind: " ++ kind) :: texts.map ("  " ++ ·), '\n' ∉ l.toList := by
    intro kind texts plain
    obtain ⟨kind_plain, texts_plain⟩ := List.forall_mem_cons.1 plain
    refine List.forall_mem_cons.2 ⟨by simpa using kind_plain, List.forall_mem_map.2 fun l member => ?_⟩
    simpa using texts_plain l member
  obtain ⟨kinds, lines⟩ := List.cons.inj (lines_injective (printed plain) (printed plain') same)
  refine ⟨(String.append_right_inj _).1 kinds, ?_⟩
  exact (List.map_inj_right fun _ _ => (String.append_right_inj _).1).1 lines

/-- Answers to `find` and to `match` that follow from one description of the target, and from how
the target is written. -/
structure Tells (described : Except Fault (Option Descriptor)) (written : Except Fault String)
    (answers : Task → Except String Answer) : Prop where
  isRead : ∀ d, described = .ok (some d) → d.IsRead
  find : answers .find = (found <$> described).mapError Fault.message
  compare : ∀ query, answers (.compare (.text query)) =
    (compared <$> if query = matchAll then .ok true
      else described >>= Query.verdict written query).mapError Fault.message

theorem tells_describe {E A T : Type} [DecidableEq T] (M : Model E A T) (c : Settings) (e : E) :
    Tells (M.describe c e).answer (M.shown e) fun task => (faulty (perform M c e task)).answer where
  isRead _ described := Model.isRead_of_describe described
  find := congrArg (Except.mapError Fault.message) (Traced.answer_map _ _)
  compare query := by
    rw [← Model.answer_accepts]
    exact congrArg (Except.mapError Fault.message) (Traced.answer_map _ _)

/-! ## Targets -/

/-- How a target is described and written that is found: as an entity of a graph, or as a subject
of a program. -/
inductive Describes (program : Program) (files : Files) (c : Settings) (target : Value) :
    Option String → Except Fault (Option Descriptor) → Except Fault String → Prop where
  | entity {file : String} {g : Graph} {e : Graph.Target}
    (loaded : (Graph.ofFile files file c.metadataType).answer = .ok g)
    (named : g.find target = .ok e) : Describes program files c target (some file)
      (g.model.describe c e).answer (g.model.shown e)
  | subject {x : Program.Subject} (named : subject program target = .ok x) :
    Describes program files c target none (program.model.describe c x).answer (program.shown x)

section Targets

variable (program : Program) (files : Files) (c : Settings) (target : Value)

theorem answer_inProgram (task : Task) :
    (answerCommand program files c ⟨task, target, none⟩).answer = (do
      let x ← (subject program target).mapError (Failure.message Program.ImportError.message)
      (faulty (perform program.model c x task)).answer) := by
  rw [answerCommand, Traced.answer_bind]
  rfl

theorem answer_inGraph (file : String) (task : Task) :
    (answerCommand program files c ⟨task, target, some file⟩).answer = (do
      let g ← (Graph.ofFile files file c.metadataType).answer.mapError
        (Failure.message Graph.LoadError.message)
      let e ← (g.find target).mapError (Failure.message Graph.UnknownEntity.message)
      (faulty (perform g.model c e task)).answer) := by
  simp only [answerCommand, Traced.answer_bind]
  rfl

theorem answer_inLoaded {file : String} {g : Graph}
    (loaded : (Graph.ofFile files file c.metadataType).answer = .ok g) (task : Task) :
    (answerCommand program files c ⟨task, target, some file⟩).answer = (do
      let e ← (g.find target).mapError (Failure.message Graph.UnknownEntity.message)
      (faulty (perform g.model c e task)).answer) := by
  rw [answer_inGraph, loaded]
  rfl

/-- A target that is not found fails every task, and one that is found is described. -/
theorem answerCommand_cases (graph : Option String) :
    ((¬ ∃ described written, Describes program files c target graph described written) ∧
      ∃ message, ∀ task,
        (answerCommand program files c ⟨task, target, graph⟩).answer = .error message) ∨
    ∃ described written, Describes program files c target graph described written ∧
      Tells described written fun task => (answerCommand program files c ⟨task, target, graph⟩).answer := by
  cases graph with
  | none =>
    simp only [answer_inProgram]
    cases named : subject program target with
    | error e =>
      refine .inl ⟨?_, _, fun _ => rfl⟩
      rintro ⟨_, _, ⟨⟩⟩
      rename_i found
      cases named.symm.trans found
    | ok x => exact .inr ⟨_, _, .subject named, tells_describe program.model c x⟩
  | some file =>
    cases loaded : (Graph.ofFile files file c.metadataType).answer with
    | error e =>
      refine .inl ⟨?_, e.message Graph.LoadError.message, fun task => ?_⟩
      · rintro ⟨_, _, ⟨found, _⟩⟩
        cases loaded.symm.trans found
      · rw [answer_inGraph, loaded]
        rfl
    | ok g =>
      simp only [answer_inLoaded program files c target loaded]
      cases named : g.find target with
      | error e =>
        refine .inl ⟨?_, e.message Graph.UnknownEntity.message, fun _ => rfl⟩
        rintro ⟨_, _, ⟨same, found⟩⟩
        cases loaded.symm.trans same
        cases named.symm.trans found
      | ok e => exact .inr ⟨_, _, .entity loaded named, tells_describe g.model c e⟩

theorem Describes.unique {graph : Option String} {described again : Except Fault (Option Descriptor)}
    {written rewritten : Except Fault String}
    (first : Describes program files c target graph described written)
    (second : Describes program files c target graph again rewritten) :
    again = described ∧ rewritten = written := by
  cases first with
  | entity loaded named =>
    cases second with
    | entity loaded' named' =>
      cases loaded.symm.trans loaded'
      cases named.symm.trans named'
      exact ⟨rfl, rfl⟩
  | subject named =>
    cases second with
    | subject named' =>
      cases named.symm.trans named'
      exact ⟨rfl, rfl⟩

end Targets

/-! ## Outcomes -/

/-- What both commands are asked with. -/
structure Asking where
  settings : Option Value
  isVerbose : Bool
  target : Value
  graph : Option String

namespace Asking

variable (q : Asking) (program : Program) (console : Console) (files : Files) (env : Environment)

def request (task : Task) : Request := ⟨q.settings, q.isVerbose, some ⟨task, q.target, q.graph⟩⟩

def outcome (task : Task) : Outcome := run program console files env (q.request task)

/-- How the target is described and written, if there are settings, a level from which on events are
shown, and the target. -/
def Describes (described : Except Fault (Option Descriptor)) (written : Except Fault String) : Prop :=
  ∃ c least, CommandLine.settings files env (q.request .find) = .ok c ∧
    threshold (q.request .find) c = .ok least ∧
    CommandLine.Describes program files c q.target q.graph described written

def IsReady : Prop := ∃ described written, q.Describes program files env described written

/-- What is found can be printed, and a target for which nothing is found can be written. -/
def IsTellable : Prop :=
  ∀ described written, q.Describes program files env described written →
    (described = .ok none → Returns written) ∧ ∀ d, described = .ok (some d) → console.Shows d

end Asking

/-- The outcomes of `match` by what `find` shows. -/
structure Agreement (shown : Outcome) (met : String → Outcome) : Prop where
  anyKind : (met anyKind).status = shown.status
  failed : ∀ query ≠ matchAll, ((met query).status = 2 ↔ shown.status = 2)
  without : shown.output = "no metadata\n" → ∀ query ≠ matchAll, (met query).status = 1
  printed : shown.status = 0 → ∃ kind texts, shown.output = page kind texts ∧
    ∀ query ≠ matchAll, ((met query).status = 0 ↔
      ∃ d, Descriptor.ofValues (.text kind) (.list (texts.map .text)) = .ok d ∧
        d.satisfies (Expression.ofText query) = true)

theorem anyKind_ne_matchAll : anyKind ≠ matchAll := by decide

section Outcomes

variable {console : Console} {described : Except Fault (Option Descriptor)}
  {written : Except Fault String} {command : Task → Attempt Answer}

/-- The query `matchAll` is met by every target. -/
theorem Tells.matchAll (tells : Tells described written fun task => (command task).answer)
    (least : Nat) : (CommandLine.outcome console least (command (.compare (.text matchAll)))).status = 0 := by
  have all : (command (.compare (.text Query.matchAll))).answer = .ok (compared true) := by
    rw [tells.compare, if_pos rfl]
    rfl
  rw [CommandLine.outcome, all, status_conclude_compared]
  rfl

/-- What is found for a target is compared with every query, be it printed or not. -/
theorem Tells.status_found {d : Descriptor}
    (tells : Tells (.ok (some d)) written fun task => (command task).answer) (least : Nat)
    {query : String} (other : query ≠ Query.matchAll) :
    (CommandLine.outcome console least (command (.compare (.text query)))).status =
      if d.satisfies (Expression.ofText query) then 0 else 1 := by
  have asked : (command (.compare (.text query))).answer =
      .ok (compared (d.satisfies (Expression.ofText query))) := by
    rw [tells.compare, if_neg other]
    rfl
  rw [CommandLine.outcome, asked, status_conclude_compared]

/-- Where nothing is found no query is met, nor is it said so if the target cannot be written. -/
theorem Tells.status_nothing (tells : Tells (.ok none) written fun task => (command task).answer)
    (least : Nat) {query : String} (other : query ≠ Query.matchAll) :
    (CommandLine.outcome console least (command (.compare (.text query)))).status =
      match written with
      | .ok _ => 1
      | .error _ => 2 := by
  have asked := tells.compare query
  rw [if_neg other] at asked
  cases written with
  | error f =>
    have failed : (command (.compare (.text query))).answer = .error f.message := asked
    rw [CommandLine.outcome, failed]
    rfl
  | ok text =>
    have judged : (command (.compare (.text query))).answer = .ok (compared false) := asked
    rw [CommandLine.outcome, judged, status_conclude_compared]
    rfl

/-- A description that fails makes every command fail but the query `matchAll`. -/
theorem Tells.status_failed {f : Fault}
    (tells : Tells (.error f) written fun task => (command task).answer) (least : Nat)
    {query : String} (other : query ≠ Query.matchAll) :
    (CommandLine.outcome console least (command (.compare (.text query)))).status = 2 := by
  have asked : (command (.compare (.text query))).answer = .error f.message := by
    rw [tells.compare, if_neg other]
    rfl
  rw [CommandLine.outcome, asked]
  rfl

/-- One description is told by both commands, if all of it can be told. -/
theorem agreement_of_tells (least : Nat)
    (tells : Tells described written fun task => (command task).answer)
    (nameable : described = .ok none → Returns written)
    (printable : ∀ d, described = .ok (some d) → console.Shows d) :
    Agreement (outcome console least (command .find))
      (fun query => outcome console least (command (.compare (.text query)))) := by
  have find := tells.find
  rcases described with f | _ | d
  · have failed : (command .find).answer = .error f.message := find
    rw [outcome, failed]
    refine ⟨tells.status_failed least anyKind_ne_matchAll, fun query other => ?_, fun silent => ?_,
      fun done => ?_⟩
    · rw [tells.status_failed least other]
      rfl
    · have quiet : "" = "no metadata\n" := silent
      exact absurd quiet (by decide)
    · cases done
  · obtain ⟨text, rfl⟩ := nameable rfl
    have nothing : (command .find).answer = .ok (found none) := find
    rw [outcome, nothing, conclude_found_none]
    refine ⟨tells.status_nothing least anyKind_ne_matchAll, fun query other => ?_,
      fun _ query other => tells.status_nothing least other, fun done => ?_⟩
    · rw [tells.status_nothing least other]
    · cases done
  · have some_found : (command .find).answer = .ok (found (some d)) := find
    rw [outcome, some_found, conclude_found_some (printable d rfl)]
    refine ⟨?_, fun query other => ?_, fun silent => ?_, fun _ => ⟨d.kind, _, rfl, fun query other => ?_⟩⟩
    · rw [tells.status_found least anyKind_ne_matchAll, if_pos d.satisfies_anyKind]
    · rw [tells.status_found least other]
      refine iff_of_false ?_ (show ¬ 0 = 2 by decide)
      split <;> decide
    · exact absurd silent (page_ne _ _)
    · rw [tells.status_found least other, Descriptor.ofValues_shown (tells.isRead d rfl)]
      simp

/-- A failed outcome for every task is no reason to disagree. -/
theorem agreement_of_failed (outcomes : Task → Outcome)
    (failed : ∀ task, (outcomes task).status = 2 ∧ (outcomes task).output = "") :
    Agreement (outcomes .find) fun query => outcomes (.compare (.text query)) where
  anyKind := by rw [(failed _).1, (failed _).1]
  failed query _ := by rw [(failed _).1, (failed _).1]
  without silent := by simp [(failed _).2] at silent
  printed done := by simp [(failed _).1] at done

end Outcomes

namespace Asking

variable {q : Asking} {program : Program} {console : Console} {files : Files} {env : Environment}

theorem outcome_unset {e : Failure SettingsError}
    (unset : CommandLine.settings files env (q.request .find) = .error e) (task : Task) :
    q.outcome program console files env task =
      CommandLine.failed (e.message SettingsError.message) := by
  have unset : CommandLine.settings files env (q.request task) = .error e := unset
  rw [outcome, run, unset]

theorem outcome_unleveled {c : Settings} {f : Fault}
    (configured : CommandLine.settings files env (q.request .find) = .ok c)
    (unleveled : threshold (q.request .find) c = .error f) (task : Task) :
    q.outcome program console files env task = CommandLine.failed f.message := by
  have configured : CommandLine.settings files env (q.request task) = .ok c := configured
  have unleveled : threshold (q.request task) c = .error f := unleveled
  rw [outcome, run, configured]
  dsimp only
  rw [unleveled]

theorem outcome_leveled {c : Settings} {least : Nat}
    (configured : CommandLine.settings files env (q.request .find) = .ok c)
    (leveled : threshold (q.request .find) c = .ok least) (task : Task) :
    q.outcome program console files env task =
      CommandLine.outcome console least (answerCommand program files c ⟨task, q.target, q.graph⟩) := by
  have configured : CommandLine.settings files env (q.request task) = .ok c := configured
  have leveled : threshold (q.request task) c = .ok least := leveled
  rw [outcome, run, configured]
  dsimp only
  rw [leveled]
  rfl

variable (q program console files env)

/-- Either every task fails before the target is described, or the target is described and told of. -/
theorem outcome_cases :
    (¬ q.IsReady program files env ∧ ∀ task, (q.outcome program console files env task).status = 2 ∧
      (q.outcome program console files env task).output = "") ∨
    ∃ described written least, ∃ command : Task → Attempt Answer, q.Describes program files env described written ∧
      (Tells described written fun task => (command task).answer) ∧
      ∀ task, q.outcome program console files env task =
        CommandLine.outcome console least (command task) := by
  cases configured : CommandLine.settings files env (q.request .find) with
  | error e =>
    refine .inl ⟨?_, fun task => ?_⟩
    · rintro ⟨_, _, c, _, found, _⟩
      cases configured.symm.trans found
    · rw [outcome_unset configured]
      exact ⟨rfl, rfl⟩
  | ok c =>
    cases leveled : threshold (q.request .find) c with
    | error f =>
      refine .inl ⟨?_, fun task => ?_⟩
      · rintro ⟨_, _, _, _, same, found, _⟩
        cases configured.symm.trans same
        cases leveled.symm.trans found
      · rw [outcome_unleveled configured leveled]
        exact ⟨rfl, rfl⟩
    | ok least =>
      have outcome_eq : ∀ task, q.outcome program console files env task = CommandLine.outcome console
          least (answerCommand program files c ⟨task, q.target, q.graph⟩) :=
        outcome_leveled configured leveled
      rcases answerCommand_cases program files c q.target q.graph with
        ⟨unresolved, message, failed⟩ | ⟨described, written, describes, tells⟩
      · refine .inl ⟨?_, fun task => ?_⟩
        · rintro ⟨described, written, _, _, same, _, describes⟩
          cases configured.symm.trans same
          exact unresolved ⟨described, written, describes⟩
        · rw [outcome_eq, CommandLine.outcome, failed]
          exact ⟨rfl, rfl⟩
      · exact .inr ⟨described, written, least, _, ⟨c, least, configured, leveled, describes⟩, tells,
          outcome_eq⟩

variable {q program console files env}

theorem Describes.unique {described again : Except Fault (Option Descriptor)}
    {written rewritten : Except Fault String} (first : q.Describes program files env described written)
    (second : q.Describes program files env again rewritten) :
    again = described ∧ rewritten = written := by
  obtain ⟨c, _, configured, -, describes⟩ := first
  obtain ⟨c', _, configured', -, describes'⟩ := second
  cases configured.symm.trans configured'
  exact CommandLine.Describes.unique _ _ _ _ describes describes'

/-- The commands agree if all that they come to can be told. -/
theorem agreement (tellable : q.IsTellable program console files env) :
    Agreement (q.outcome program console files env .find)
      fun query => q.outcome program console files env (.compare (.text query)) := by
  rcases q.outcome_cases program console files env with
    ⟨-, failed⟩ | ⟨described, written, least, command, describes, tells, told⟩
  · exact agreement_of_failed _ failed
  · obtain ⟨nameable, printable⟩ := tellable described written describes
    rw [funext told]
    exact agreement_of_tells least tells nameable printable

/-- What is told of a description. -/
theorem Describes.told {described : Except Fault (Option Descriptor)} {written : Except Fault String}
    (describes : q.Describes program files env described written) :
    ∃ least, ∃ command : Task → Attempt Answer,
      (Tells described written fun task => (command task).answer) ∧
    ∀ task, q.outcome program console files env task =
      CommandLine.outcome console least (command task) := by
  rcases q.outcome_cases program console files env with
    ⟨unready, -⟩ | ⟨_, _, least, command, describes', tells, told⟩
  · exact absurd ⟨described, written, describes⟩ unready
  · obtain ⟨rfl, rfl⟩ := describes.unique describes'
    exact ⟨least, command, tells, told⟩

theorem status_matchAll : (q.outcome program console files env (.compare (.text matchAll))).status = 0 ↔
    q.IsReady program files env := by
  rcases q.outcome_cases program console files env with
    ⟨unready, failed⟩ | ⟨described, written, least, command, describes, tells, told⟩
  · rw [(failed _).1]
    exact iff_of_false (by decide) unready
  · rw [told, tells.matchAll]
    exact iff_of_true rfl ⟨described, written, describes⟩

/-- A target without metadata that cannot be written: `find` tells that there is none. -/
theorem outcomes_of_unwritten {f : Fault}
    (describes : q.Describes program files env (.ok none) (.error f)) :
    (q.outcome program console files env .find).status = 1 ∧ ∀ query ≠ matchAll,
      (q.outcome program console files env (.compare (.text query))).status = 2 := by
  obtain ⟨least, command, tells, told⟩ := describes.told
  have nothing : (command .find).answer = .ok (found none) := tells.find
  constructor
  · rw [told, CommandLine.outcome, nothing, conclude_found_none]
  · intro query other
    rw [told, tells.status_nothing least other]

/-- Metadata that cannot be printed is compared all the same. -/
theorem outcomes_of_unprinted {d : Descriptor} {written : Except Fault String}
    (describes : q.Describes program files env (.ok (some d)) written)
    (unprinted : ¬ console.Shows d) :
    (q.outcome program console files env .find).status = 2 ∧ ∀ query ≠ matchAll,
      (q.outcome program console files env (.compare (.text query))).status =
        if d.satisfies (Expression.ofText query) then 0 else 1 := by
  obtain ⟨least, command, tells, told⟩ := describes.told
  have some_found : (command .find).answer = .ok (found (some d)) := tells.find
  constructor
  · rw [told, CommandLine.outcome, some_found, status_conclude_of_not_canPrint unprinted]
  · intro query other
    rw [told, tells.status_found least other]

end Asking

/-! ## Files that are loaded again -/

/-- Some files hold the same, or fail alike, whenever they are loaded. -/
def AgreeOn (files again : Files) (names : List String) : Prop :=
  ∀ name ∈ names, Yaml.readFile again (Path.ofText name) = Yaml.readFile files (Path.ofText name)

section Again

variable {files again : Files} {env : Environment} {request : Request}

theorem settings_congr (agree : AgreeOn files again (request.files env)) :
    settings again env request = settings files env request := by
  have from_file : ∀ name ∈ (request.settings.bind Value.text? <|> env.get? Settings.fileVariable),
      Settings.ofFile again env name = Settings.ofFile files env name := by
    intro name named
    have same := agree name (List.mem_append_left _ (Option.mem_toList.2 named))
    rw [Settings.ofFile, Settings.ofFile, same]
  have from_sources : ∀ name, (request.settings.bind Value.text? = name) →
      Settings.ofSources again env name = Settings.ofSources files env name := by
    rintro name rfl
    unfold Settings.ofSources
    split
    · rename_i file chosen
      exact from_file file chosen
    · rfl
  unfold settings
  split
  · rename_i unset
    exact from_sources none (by rw [unset]; rfl)
  · rename_i file set
    exact from_sources (some file) (by rw [set]; rfl)
  · rfl

theorem answerCommand_congr (program : Program) (c : Settings) {command : Command}
    (agree : AgreeOn files again command.graph.toList) :
    answerCommand program again c command = answerCommand program files c command := by
  unfold answerCommand
  split
  · rename_i file named
    have same := agree file (by simp [named])
    rw [Graph.ofFile, Graph.ofFile, Graph.documentOf, Graph.documentOf, same]
  · rfl

/-- A run depends on the files that are named for it, and on no other. -/
theorem run_congr (program : Program) (console : Console)
    (agree : AgreeOn files again (request.files env)) :
    run program console again env request = run program console files env request := by
  unfold run
  rw [settings_congr agree]
  split
  · rfl
  · split
    · rfl
    · split
      · rfl
      · rename_i command asked
        have graph : AgreeOn files again command.graph.toList := fun name named =>
          agree name (List.mem_append_right _ (by simpa [asked] using named))
        rw [answerCommand_congr program _ graph]

end Again

/-- **The commands agree.**  Whatever they are asked with, the outcomes of `match` are those that
`find` lets expect, if what is found can be printed and a target without metadata can be written.
Otherwise `find` alone fails, or `match` alone.  The query `matchAll` is met whenever there is a
target; what arguments are accepted as is what is answered; and arguments that ask for `find` ask
`match` for the same with the other name in its place and a query behind them. -/
theorem commands_agree (program : Program) (console : Console) (files again : Files)
    (env : Environment) (q : Asking) (agree : AgreeOn files again ((q.request .find).files env)) :
    (q.IsTellable program console files env →
      Agreement (q.outcome program console files env .find)
        (fun query => q.outcome program console again env (.compare (.text query)))) ∧
    (∀ f, q.Describes program files env (.ok none) (.error f) →
      (q.outcome program console files env .find).status = 1 ∧ ∀ query ≠ matchAll,
        (q.outcome program console again env (.compare (.text query))).status = 2) ∧
    (∀ d written, q.Describes program files env (.ok (some d)) written → ¬ console.Shows d →
      (q.outcome program console files env .find).status = 2 ∧ ∀ query ≠ matchAll,
        (q.outcome program console again env (.compare (.text query))).status =
          if d.satisfies (Expression.ofText query) then 0 else 1) ∧
    ((q.outcome program console again env (.compare (.text matchAll))).status = 0 ↔
      q.IsReady program files env) ∧
    (∀ task arguments, Request.ofArguments arguments = .ok (q.request task) →
      answer program console files env arguments = .ok (q.outcome program console files env task)) ∧
    ∀ arguments, Request.ofArguments arguments = .ok (q.request .find) →
      ∃ globals rest, arguments = globals ++ "find" :: rest ∧ ∀ query, IsPlain query →
        answer program console again env (globals ++ "match" :: (rest ++ [query])) =
          .ok (q.outcome program console again env (.compare (.text query))) := by
  have answered : ∀ files task arguments, Request.ofArguments arguments = .ok (q.request task) →
      answer program console files env arguments = .ok (q.outcome program console files env task) := by
    intro files task arguments accepted
    rw [answer, accepted]
    rfl
  have loaded_again : ∀ task, q.outcome program console again env task =
      q.outcome program console files env task := fun task => run_congr program console agree
  simp only [loaded_again]
  refine ⟨Asking.agreement, fun f => Asking.outcomes_of_unwritten,
    fun d written => Asking.outcomes_of_unprinted, Asking.status_matchAll, answered files,
    fun arguments accepted => ?_⟩
  obtain ⟨globals, rest, written, asked⟩ := Request.ofArguments_match accepted
  refine ⟨globals, rest, written, fun query plain => ?_⟩
  rw [answered again _ _ (asked query plain), loaded_again]

/-! ## A function with metadata, and annotations that cannot be written

The function is found by its name, in a process that shows sets in one order and in one that shows
them in the other.  The annotations of a class can be named as well; nothing is found for them, and
among them is one with a number in the place of the function by which it is written. -/

namespace Told

def noFiles (order : SetOrder) : Files := ⟨.ofEntries [], Yaml.loader order⟩

def reversed : SetOrder := ⟨List.reverse, List.reverse_perm⟩

def metadata : Program.Annotation :=
  ⟨.metadata, [(.text "kind", .text "Handler"), (.text "properties", .tuple [.text "x=1"])]⟩

def function : Program.Subject := .function 7 "f"

def program : Program :=
  { Program.initial.next.bind (.module "app") "f" function with
    attached := Program.initialAttached.put ⟨.inside 7, .function⟩ [metadata] }

def asking : Asking := ⟨none, false, .text "app:f", none⟩

def descriptor : Descriptor := ⟨"Handler", [⟨"x", some "1"⟩]⟩

theorem answer_describe :
    (program.model.describe Settings.default function).answer = .ok (some descriptor) := by
  rw [Model.answer_describe, Search.find, Search.run_eq_of_explores (M := program.model)
    (c := Settings.default) (e := function) (.metadata rfl)]
  rfl

theorem describes_function (order : SetOrder) : asking.Describes program (noFiles order) []
    (.ok (some descriptor)) (.ok "<function f>") := by
  refine ⟨Settings.default, 30, rfl, rfl, ?_⟩
  rw [← answer_describe]
  exact .subject rfl

theorem isTellable_function (order : SetOrder) :
    asking.IsTellable program .utf8 (noFiles order) [] := by
  intro described written describes
  obtain ⟨rfl, -⟩ := (describes_function order).unique describes
  refine ⟨nofun, fun d same => ?_⟩
  cases same
  unfold Console.Shows
  decide

/-- Metadata that is found is found again, and all its kinds are accepted. -/
theorem commands_told : AgreeOn (noFiles .asGiven) (noFiles reversed) ((asking.request .find).files []) ∧
    asking.IsTellable program .utf8 (noFiles .asGiven) [] ∧
    (asking.outcome program .utf8 (noFiles .asGiven) [] .find).status = 0 ∧
    (asking.outcome program .utf8 (noFiles reversed) [] (.compare (.text anyKind))).status = 0 ∧
    (asking.outcome program .utf8 (noFiles reversed) [] (.compare (.text matchAll))).status = 0 := by
  have agree : AgreeOn (noFiles .asGiven) (noFiles reversed) ((asking.request .find).files []) := nofun
  have tellable := isTellable_function .asGiven
  obtain ⟨agreement, -, -, sentinel, -, -⟩ :=
    commands_agree program .utf8 (noFiles .asGiven) (noFiles reversed) [] asking agree
  have describes := describes_function .asGiven
  have shown : (asking.outcome program .utf8 (noFiles .asGiven) [] .find).status = 0 := by
    obtain ⟨least, command, tells, told⟩ := describes.told
    have found : (command .find).answer = .ok (found (some descriptor)) := tells.find
    rw [told, outcome, found, conclude_found_some ((tellable _ _ describes).2 _ rfl)]
  refine ⟨agree, tellable, shown, ?_, sentinel.2 ⟨_, _, describes⟩⟩
  rw [(agreement tellable).anyKind, shown]

end Told

namespace Untold

open Program

def note : Program.Class where
  number := 7
  name := "Note"
  path := "Note"
  home := "app"
  ancestors := [Class.base.key]
  hasRoom := true
  appearance := .call
  isFixed := false

def holder : Program.Class := { note with number := 8, name := "C", path := "C", ancestors := [] }

def mute : Annotation := ⟨note, [(.text writingHook, .whole 5)]⟩

def program : Program where
  declared := 9
  members := (initialMembers.put (.inside 7, writingHook) (.value (.whole 5))).put
    (.module "app", "C") (.type holder)
  attached := initialAttached.put holder.key [mute]
  conduct := .silent

def asking : Asking := ⟨none, false, .text "app:C.__metamatch_annotations__", none⟩

theorem describes_annotations : asking.Describes program (Told.noFiles .asGiven) []
    (.ok none) (.error (.notCallable "int")) := by
  refine ⟨Settings.default, 30, rfl, rfl, ?_⟩
  have bare : (program.model.describe Settings.default (.annotations [mute])).answer = .ok none :=
    Search.answer_describe_of_bare _ rfl rfl
  have named : CommandLine.subject program asking.target = .ok (.annotations [mute]) := rfl
  have unwritten : program.shown (.annotations [mute]) = .error (.notCallable "int") := rfl
  rw [← bare, ← unwritten]
  exact .subject named

/-- That there is no metadata is found out by one of the commands only. -/
theorem commands_differ :
    (asking.outcome program .utf8 (Told.noFiles .asGiven) [] .find).status = 1 ∧
    (asking.outcome program .utf8 (Told.noFiles .asGiven) [] (.compare (.text anyKind))).status = 2 := by
  obtain ⟨shown, met⟩ := Asking.outcomes_of_unwritten describes_annotations
  exact ⟨shown, met anyKind anyKind_ne_matchAll⟩

end Untold

end CommandLine

end Hallmark
