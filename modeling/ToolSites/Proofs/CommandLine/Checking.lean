import ToolSites.Proofs.CommandLine.Editing
import ToolSites.Proofs.Environment.Problems
/-!
# What checking finds

`check` ends well exactly when every entry resolves something and no set is an orphan
(`check_exit`, and `check_run` for an invocation, which loads the environment first). Both
rest on `problems_eq`: what is reported are the entries that resolution has no use for.
-/

namespace ToolSites.CommandLine

open Environment

variable {config : Config} {start env : Environment} {files : FileTree}

/-! ## Exit codes -/

theorem check_exit {o : Options} {events : List Event} :
    (perform o env files events .check).exit = 0 ↔ env.problems = [] := by
  unfold perform
  cases env.problems with
  | nil => simp
  | cons problem rest => simp

/-- An invocation of `check` ends well exactly when an environment loads in which everything
resolves. -/
theorem check_run (o : Options) (files : FileTree) (vars : Variables) :
    ((⟨o, .check⟩ : Invocation).run files vars).exit = 0 ↔
      ∃ env, Environment.load files vars o.config = .ok env ∧ env.AllResolve := by
  cases hload : Environment.load files vars o.config with
  | error e => simp [Invocation.run, hload, exit_failed]
  | ok env =>
    obtain ⟨config, base, -, -, hof⟩ := load_eq_ok.1 hload
    rw [run_of_reads (i := ⟨o, .check⟩) hload rfl, check_exit, problems_eq_nil (ofConfig_indexed hof)]
    simp only [Except.ok.injEq, exists_eq_left']

/-! ## Agreement -/

/-- After sets were published, successfully or not, and types unregistered, the problems are
those entries that are for no installation, told node by node as they are configured and
entry by entry, and then the orphans, each name once. Of an entry it is said that its type is
unknown exactly if it is not registered. So there are no problems exactly when everything
resolves, and exactly then `check` ends well, here and in any invocation. -/
theorem check_agrees {base : Path} (hload : ofConfig files config base = .ok start)
    (hrun : Reached start env) :
    env.nodes.all = config.nodes.entries.map (fun e => ⟨e.1, e.2.kind, e.2.labels⟩) ∧
      env.problems =
        env.nodes.all.flatMap (fun node => (env.entriesAt node).filterMap (env.report? node.name)) ++
          env.orphaned.names.map .notCarried ∧
      env.orphaned.names.Nodup ∧
      (∀ node l, env.report? node l ≠ none ↔
        ∀ i ∈ env.installations.values, l.compare i env.types ≠ .ok true) ∧
      (∀ node l, env.report? node l = some (.unknownType node l.key.text l.typeId) ↔
        env.types.find? l.typeId = none) ∧
      (env.problems = [] ↔ env.AllResolve) ∧
      (∀ o found events, (perform o env found events .check).exit = 0 ↔ env.AllResolve) ∧
      ∀ o found vars, ((⟨o, .check⟩ : Invocation).run found vars).exit = 0 ↔
        ∃ loaded, Environment.load found vars o.config = .ok loaded ∧ loaded.AllResolve := by
  have hindexed : Indexed env := hrun.indexed (ofConfig_indexed hload)
  have hnil := problems_eq_nil hindexed
  refine ⟨?_, problems_eq hindexed, env.orphaned.nodup, fun node l => ?_,
    fun node l => report?_eq_unknownType hindexed, hnil, fun o found events => check_exit.trans hnil,
    check_run⟩
  · rw [NodeRegistry.all, hrun.nodes, nodes_ofConfig hload, NameMap.values, entries_declaredNodes,
      List.map_map]
    rfl
  · rw [ne_eq, report?_eq_none, serves_eq_true]
    simp only [not_exists, not_and, ne_eq]

/-- Everything resolves. Then three entries are published for `n`, two of them with the key of
the installation, and the type `T` is unregistered: each entry is reported, and checking
fails. -/
theorem check_agrees_unregistered :
    let config : Config := ⟨none, .ofList [("T", "")], [⟨"T", "a", "b"⟩],
      .ofList [("n", ⟨.agent, [], [("T@a", "h")]⟩)]⟩
    let entry (name home : String) : Location := .unresolved ⟨"T", name, by decide⟩ home
    let set : OverrideSet := ⟨[entry "a" "1", entry "b" "2", entry "a" "3"]⟩
    let files : FileTree := ⟨[], []⟩
    let problem (key : String) : LocationProblem := .unknownType "n" key "T"
    ∃ start env, ofConfig files config ⟨.slash, []⟩ = .ok start ∧ start.AllResolve ∧
      env = (start.publish files "n" set).2.1.unregister "T" ∧
      env.problems = [problem "T@a", problem "T@b", problem "T@a"] ∧ ¬ env.AllResolve ∧
      (perform {} env files [] .check).exit ≠ 0 := by
  intro config entry set files problem
  have hsaw : (ofConfig files config ⟨.slash, []⟩).toOption.map (fun start =>
      (start.problems, ((start.publish files "n" set).2.1.unregister "T").problems)) =
      some ([], [problem "T@a", problem "T@b", problem "T@a"]) := by
    decide +kernel
  obtain ⟨start, hstart, hsaw⟩ := Option.map_eq_some_iff.1 hsaw
  rw [Prod.mk.injEq] at hsaw
  obtain ⟨hfirst, hlater⟩ := hsaw
  have hload := toOption_eq_some.1 hstart
  obtain ⟨-, -, -, -, -, hnil, -⟩ := check_agrees hload .none
  obtain ⟨-, -, -, -, -, hnil', hexit, -⟩ :=
    check_agrees hload (.unregister "T" (.publish .none rfl : Reached start (start.publish files "n" set).2.1))
  have hfails : ¬ ((start.publish files "n" set).2.1.unregister "T").AllResolve := by
    rw [← hnil', hlater]
    exact List.cons_ne_nil _ _
  exact ⟨start, _, hload, hnil.1 hfirst, rfl, hlater, hfails, fun he => hfails ((hexit _ _ _).1 he)⟩

end ToolSites.CommandLine
