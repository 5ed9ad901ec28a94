import CacheWarden.Proofs.Cache.Listing
import CacheWarden.Proofs.Checker.Gate
import CacheWarden.Proofs.Command.Operation
import CacheWarden.Proofs.Store.Runtime
import Mathlib

/-!
# What a whole check asks of the launcher

A check lists first and destroys only what was listed, in the directory that was listed, although
the directory is worked out once by the store and once by the checker. Nothing of this depends on
what the launcher prints or how it ends. Main statement: `whole_lists_then_destroys`.
-/

namespace CacheWarden.Checker

variable {σ : Type}

/-- A start and, if the caches could be listed, a full run. -/
def whole (store : Store σ) (config : Config) (w : Workload) (records : RecordSink) :
    Session (World σ) (Except Failure RunReport) := do
  match ← start store config w records with
  | .error e => return .error e
  | .ok c => return (← c.run store).1

/-- Behind its list, a whole check changes its store only by the pass of its reaper. -/
theorem store_whole (store : Store σ) (config : Config) (w : Workload) (records : RecordSink)
    (world : World σ) :
    let listed := listing store config world.store
    let out := Session.result (whole store config w records) world
    out.2.store = listed.2 ∨
      ∃ snapshot, listed.1 = .ok snapshot ∧
        out.2.store =
          (reaping store { config, workload := w, records, snapshot } listed.2).2 := by
  intro listed out
  cases hl : listed.1 with
  | error e =>
    left
    simp only [out, whole, Session.result_bind, start_of_refused hl]
    rfl
  | ok snapshot =>
    obtain ⟨hc, hs⟩ := start_of_listed hl w records
    set c : Checker := { config, workload := w, records, snapshot }
    set started := (Session.result (start store config w records) world).2
    have hout : out.2.store = (Session.result (c.run store) started).2.store := by
      simp only [out, whole, Session.result_bind, hc, Session.result_pure]
      rfl
    by_cases h : c.Cleared started.files
    · right
      exact ⟨snapshot, rfl, by rw [hout, (run_of_cleared h store).1, hs]⟩
    · left
      rw [hout, (run_of_not_cleared h store).1, hs]

/-! ### The calls of each part -/

theorem location_query (config : Config) :
    RuntimeStore.location config.launcher (query config) = config.effectiveLocation := by
  rw [RuntimeStore.location, Config.effectiveLocation, query]
  cases config.launcher.sharedClassesOption <;> rfl

/-- The call that lists the caches where a configuration looks for them. -/
def listCall (config : Config) : Command :=
  ⟨config.launcher.java, [CacheOperation.listArgument config.effectiveLocation]⟩

/-- The call that destroys a cache there. -/
def destroyCall (config : Config) (cache : String × Persistence) : Command :=
  ⟨config.launcher.java,
    [CacheOperation.destroyArgument cache.1 config.effectiveLocation cache.2]⟩

theorem listCommand_query (config : Config) :
    RuntimeStore.listCommand config.launcher (query config) = listCall config := by
  rw [RuntimeStore.listCommand, location_query, CacheOperation.command,
    CacheOperation.arguments_listAll, listCall]

theorem destroyCommand_request {config : Config} {n : String}
    (h : LaunchOption.Verbatim n config.effectiveLocation) (store : Store σ) (d : Descriptor) :
    RuntimeStore.destroyCommand config.launcher ((reaper store config).request n d) =
      destroyCall config (n, d.persistence) := by
  have hargs := (CacheOperation.arguments_destroy_eq_iff n config.effectiveLocation
    d.persistence).2 h
  rw [destroyCall, ← hargs]
  rfl

/-- The caches of a plan that the launcher is to destroy. -/
def planned (ts : List (String × Descriptor)) : List (String × Persistence) :=
  ts.map fun t => (t.1, t.2.persistence)

theorem calls_attemptAll {launcher : Launcher} {config : Config} {ts : List (String × Descriptor)}
    (hts : ∀ t ∈ ts, LaunchOption.Verbatim t.1 config.effectiveLocation) (calls : Calls) :
    (Session.result ((reaper (.runtime launcher config.launcher) config).attemptAll ts) calls).2 =
      calls ++ ((planned ts).map (destroyCall config)).flatMap Command.launched := by
  induction ts generalizing calls with
  | nil => simp [Reaper.attemptAll, planned]
  | cons t ts ih =>
    obtain ⟨n, d⟩ := t
    set r : Reaper Calls := reaper (.runtime launcher config.launcher) config with hr
    have hn := hts (n, d) List.mem_cons_self
    have hcall : (Session.result (r.attempt n d) calls).2 =
        calls ++ (destroyCall config (n, d.persistence)).launched := by
      rw [Reaper.result_attempt, Reaper.result_destroy, ← destroyCommand_request hn]
      exact RuntimeStore.calls_destroy launcher config.launcher r.limit (r.request n d) calls
    have htail : (Session.result (r.attemptAll ((n, d) :: ts)) calls).2 =
        (Session.result (r.attemptAll ts) (Session.result (r.attempt n d) calls).2).2 := rfl
    rw [htail, ih (fun t ht => hts t (List.mem_cons_of_mem _ ht)), hcall, List.append_assoc]
    rfl

/-- The caches among some that the launcher can be asked to destroy. -/
def reachable (config : Config) (caches : List (String × Persistence)) :
    List (String × Persistence) :=
  caches.filter fun c => !(destroyCall config c).hasNul

theorem launched_destroyCalls (config : Config) (caches : List (String × Persistence)) :
    (caches.map (destroyCall config)).flatMap Command.launched =
      (reachable config caches).map (destroyCall config) := by
  induction caches with
  | nil => rfl
  | cons c caches ih =>
    rw [List.map_cons, List.flatMap_cons, ih, Command.launched, reachable, reachable,
      List.filter_cons]
    cases (destroyCall config c).hasNul <;> rfl

/-- What a checker's reaper is to destroy. -/
def planOf (c : Checker) : List (String × Descriptor) :=
  Reaper.plan c.config.reapMode false c.workload c.ledger c.snapshot

theorem calls_reaping {launcher : Launcher} {c : Checker}
    (hplain : ∀ t ∈ c.planOf, LaunchOption.Verbatim t.1 c.config.effectiveLocation)
    (calls : Calls) :
    (reaping (.runtime launcher c.config.launcher) c calls).2 =
      calls ++ (reachable c.config (planned c.planOf)).map (destroyCall c.config) := by
  rw [reaping, Reaper.result_pass, Reaper.result_sweep, ← launched_destroyCalls]
  exact calls_attemptAll hplain calls

theorem nodup_reachable (c : Checker) :
    ((reachable c.config (planned c.planOf)).map Prod.fst).Nodup := by
  have hfst : (planned c.planOf).map Prod.fst = c.planOf.map Prod.fst := by simp [planned]
  have hdistinct : ((planned c.planOf).map Prod.fst).Nodup :=
    hfst ▸ Reaper.nodup_plan c.config.reapMode false c.workload c.ledger c.snapshot
  exact hdistinct.sublist (List.filter_sublist.map Prod.fst)

theorem mem_reachable {c : Checker} {n : String} {p : Persistence}
    (h : (n, p) ∈ reachable c.config (planned c.planOf)) :
    n ∈ c.workload.names ∧
      ∃ d, c.snapshot.find? (fun e => e.name == some n) = some d ∧ d.persistence = p := by
  obtain ⟨⟨m, d⟩, hd, he⟩ := List.mem_map.1 (List.mem_filter.1 h).1
  cases he
  obtain ⟨-, hw, -, hf⟩ := Reaper.mem_plan hd
  exact ⟨hw, d, hf, rfl⟩

/-- Whether a cache is the first of its name in what the launcher printed as the list. -/
def FirstListed (launcher : Launcher) (config : Config) (n : String) (d : Descriptor) : Prop :=
  ∃ exitCode stdout stderr elapsed,
    launcher (listCall config) = .ended exitCode stdout stderr elapsed ∧
      (Listing.caches (Command.outputOf exitCode stdout stderr).combined).find?
        (fun e => e.name == some n) = some d

theorem FirstListed.space_not_mem {launcher : Launcher} {config : Config} {n : String}
    {d : Descriptor} (h : FirstListed launcher config n d) : ' ' ∉ n.toList := by
  obtain ⟨_, _, _, _, -, hf⟩ := h
  exact Listing.space_not_mem_of_find? hf

/-- Whether some caches may be destroyed: they are caches of the workload, each once, and of each
    the first of its name was listed, with that kind. -/
structure Justified (launcher : Launcher) (config : Config) (w : Workload)
    (destroyed : List (String × Persistence)) : Prop where
  distinct : (destroyed.map Prod.fst).Nodup
  owned : ∀ c ∈ destroyed, c.1 ∈ w.names
  listed : ∀ c ∈ destroyed, ∃ d, FirstListed launcher config c.1 d ∧ d.persistence = c.2

theorem justified_nil (launcher : Launcher) (config : Config) (w : Workload) :
    Justified launcher config w [] :=
  ⟨List.nodup_nil, by simp, by simp⟩

theorem justified_reachable {launcher : Launcher} {c : Checker}
    (h : ∀ n d, c.snapshot.find? (fun e => e.name == some n) = some d →
      FirstListed launcher c.config n d) :
    Justified launcher c.config c.workload (reachable c.config (planned c.planOf)) := by
  refine ⟨nodup_reachable c, fun cache hc => (mem_reachable hc).1, ?_⟩
  intro cache hc
  obtain ⟨-, d, hf, hd⟩ := mem_reachable hc
  exact ⟨d, h cache.1 d hf, hd⟩

theorem calls_listing (launcher : Launcher) (config : Config) (calls : Calls) :
    (listing (.runtime launcher config.launcher) config calls).2 =
      calls ++ (listCall config).launched := by
  rw [listing, Store.result_runtime_list rfl, listCommand_query]

/-- A list that was given was asked for, and printed by the launcher. -/
theorem listing_eq_ok {launcher : Launcher} {config : Config} {calls : Calls}
    {live : List Descriptor}
    (h : (listing (.runtime launcher config.launcher) config calls).1 = .ok live) :
    (listCall config).launched = [listCall config] ∧
      ∀ n d, live.find? (fun e => e.name == some n) = some d →
        FirstListed launcher config n d := by
  obtain ⟨output, hanswer, rfl⟩ := Store.runtime_list_eq_ok rfl h
  rw [listCommand_query] at hanswer
  obtain ⟨hnul, exitCode, stdout, stderr, elapsed, hended, rfl⟩ := Command.answer_eq_ok hanswer
  refine ⟨?_, fun n d hf => ⟨exitCode, stdout, stderr, elapsed, hended, hf⟩⟩
  rw [Command.launched, hnul]
  rfl

/-- For every launcher, whatever it prints and however it ends, and for all files: the launcher is
    asked for nothing, or for the list and then for the destruction of caches that are justified by
    that list. Where a text could be cut or changed on its way, nothing is promised. -/
theorem whole_lists_then_destroys (launcher : Launcher) (config : Config) (w : Workload)
    (records : RecordSink) (world : World Calls)
    (hlocation : ∀ d ∈ config.effectiveLocation, ' ' ∉ d.toList ∧ '$' ∉ d.toList)
    (hnames : ∀ n ∈ w.names, '$' ∉ n.toList) :
    let out := Session.result (whole (.runtime launcher config.launcher) config w records) world
    ∃ calls, out.2.store = world.store ++ calls ∧
      (calls = [] ∨ ∃ destroyed, Justified launcher config w destroyed ∧
        calls = listCall config :: destroyed.map (destroyCall config)) := by
  intro out
  have hlist := calls_listing launcher config world.store
  rcases store_whole (.runtime launcher config.launcher) config w records world with
    h | ⟨live, hlive, h⟩
  · refine ⟨(listCall config).launched, h.trans hlist, ?_⟩
    rw [Command.launched]
    split
    · exact Or.inl rfl
    · exact Or.inr ⟨[], justified_nil launcher config w, rfl⟩
  · obtain ⟨hone, hfirst⟩ := listing_eq_ok hlive
    set c : Checker := { config, workload := w, records, snapshot := live }
    have hplain : ∀ t ∈ c.planOf, LaunchOption.Verbatim t.1 config.effectiveLocation := by
      rintro ⟨n, d⟩ ht
      obtain ⟨-, hw, -, hf⟩ := Reaper.mem_plan ht
      exact LaunchOption.verbatim_of_plain ⟨(hfirst n d hf).space_not_mem, hnames n hw⟩ hlocation
    refine ⟨listCall config :: (reachable config (planned c.planOf)).map (destroyCall config), ?_,
      Or.inr ⟨_, justified_reachable (c := c) hfirst, rfl⟩⟩
    rw [h, hlist, hone, calls_reaping hplain, List.append_assoc, List.singleton_append]

/-- A launcher that lists a cache of the workload is asked to destroy it. -/
theorem whole_of_listed_cache :
    let config : Config :=
      { cacheDir := some "/tmp/sc", delete := true, launcher := { java := "java" } }
    let w : Workload := ⟨["T3"]⟩
    let launcher : Launcher := fun c =>
      if c = listCall config then
        .ended (some 0) "Compatible shared caches\nT3 Java17 64-bit non-persistent".toUTF8 .empty 0
      else .ended (some 1) .empty .empty 0
    let out := Session.result (whole (.runtime launcher config.launcher) config w ⟨none, "", ""⟩)
      { files := .empty [], store := [] }
    out.2.store =
        [⟨"java", ["-Xshareclasses:cacheDir=/tmp/sc,listAllCaches"]⟩,
          ⟨"java", ["-Xshareclasses:name=T3,cacheDir=/tmp/sc,destroy,nonpersistent"]⟩] ∧
      ∃ destroyed, Justified launcher config w destroyed ∧
        out.2.store = listCall config :: destroyed.map (destroyCall config) := by
  intro config w launcher out
  have hlocation : ∀ d ∈ config.effectiveLocation, ' ' ∉ d.toList ∧ '$' ∉ d.toList := by
    decide +kernel
  have hnames : ∀ n ∈ w.names, '$' ∉ n.toList := by decide +kernel
  obtain ⟨calls, hstore, hc⟩ :=
    whole_lists_then_destroys launcher config w ⟨none, "", ""⟩
      { files := .empty [], store := [] } hlocation hnames
  have hcalls : out.2.store =
      [listCall config, destroyCall config ("T3", .nonPersistent)] := by
    decide +kernel
  refine ⟨hcalls.trans (by decide +kernel), ?_⟩
  rcases hc with rfl | ⟨destroyed, hj, rfl⟩
  · rw [hcalls] at hstore
    cases hstore
  · exact ⟨destroyed, hj, hstore⟩

end CacheWarden.Checker
