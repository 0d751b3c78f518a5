import DocLedger.Client.Indexing
import DocLedger.Proofs.Host.Paths

/-!
# The files that the engine and the client mean

A client names its repository and its index to the engine by the paths that it
was given, and starts the engine in the directory of the repository.  The engine
takes relative paths from there, and the client from the directory in which it
works itself.  Both mean the same files just in case the paths climb to the same
place from both directories, as absolute paths do.
-/

namespace DocLedger.Client

open Engine (Invocation)
open Host (Files Place above enterPart isAbsolute placeOf trail)

/-- The invocations that a client makes for an index with a configuration. -/
inductive InvokesIndex (c : Client) : Index.Config → Invocation → Prop
  | sync {layer : Index.Layer} {config : Index.Config} {args : Command.Vector}
      (hplan : c.syncPlan layer = .ok (config, args)) : InvokesIndex c config (c.invocation args)
  | watch {layer : Index.Layer} {plan : WatchPlan} (hplan : c.watchPlan layer = .ok plan) :
      InvokesIndex c plan.config (c.invocation plan.args)

/-- The invocations that a client makes. -/
inductive Invokes (c : Client) : Invocation → Prop
  | operation {op : Operation} {args : Command.Vector} (hargs : c.operationVector op = .ok args) :
      Invokes c (c.invocation args)
  | index {config : Index.Config} {inv : Invocation} (hindex : c.InvokesIndex config inv) :
      Invokes c inv

/-! ## The arguments of an invocation -/

theorem bind_eq_ok {α β ε : Type} {x : Except ε α} {f : α → Except ε β} {b : β}
    (h : x >>= f = .ok b) : ∃ a, x = .ok a ∧ f a = .ok b := by
  cases x with
  | error e => cases h
  | ok a => exact ⟨a, rfl, h⟩

/-- The words of an index name its database. -/
theorem index_eq_ok {task : Command.IndexTask} {config : Index.Config} {words : Command.Vector}
    (h : Command.index task config = .ok words) :
    ∃ rest, words = .text "index" :: .text task.word :: .text "--db" :: config.path :: rest := by
  cases task with
  | sync =>
      obtain ⟨watching, -, h⟩ := bind_eq_ok h
      obtain ⟨batch, -, h⟩ := bind_eq_ok h
      cases h
      exact ⟨_, rfl⟩
  | watch =>
      obtain ⟨watching, -, h⟩ := bind_eq_ok h
      obtain ⟨batch, -, h⟩ := bind_eq_ok h
      cases h
      exact ⟨_, rfl⟩

theorem indexVector_eq_ok {c : Client} {task : Command.IndexTask} {config : Index.Config}
    {json : Bool} {args : Command.Vector} (h : c.indexVector task config json = .ok args) :
    ∃ rest, args = Command.base (.text c.repo) json false true ++
      .text "index" :: .text task.word :: .text "--db" :: config.path :: rest := by
  obtain ⟨words, hwords, h⟩ := bind_eq_ok h
  obtain ⟨rest, rfl⟩ := index_eq_ok hwords
  cases h
  exact ⟨rest, rfl⟩

theorem InvokesIndex.args_eq {c : Client} {config : Index.Config} {inv : Invocation}
    (h : c.InvokesIndex config inv) :
    inv.cwd = some c.repo ∧ ∃ json task rest,
      inv.args = Command.base (.text c.repo) json false true ++
        .text "index" :: .text (Command.IndexTask.word task) ::
          .text "--db" :: config.path :: rest := by
  cases h with
  | sync hplan =>
      obtain ⟨config, -, h⟩ := bind_eq_ok hplan
      obtain ⟨args, hargs, h⟩ := bind_eq_ok h
      cases h
      obtain ⟨rest, heq⟩ := indexVector_eq_ok hargs
      exact ⟨rfl, true, .sync, rest, heq⟩
  | watch hplan =>
      obtain ⟨options, -, h⟩ := bind_eq_ok hplan
      obtain ⟨config, -, h⟩ := bind_eq_ok h
      obtain ⟨args, hargs, h⟩ := bind_eq_ok h
      cases h
      obtain ⟨rest, heq⟩ := indexVector_eq_ok hargs
      exact ⟨rfl, _, .watch, rest, heq⟩

/-- Every invocation names the repository by the path that the client was given,
and starts the engine there. -/
theorem Invokes.args_eq {c : Client} {inv : Invocation} (h : c.Invokes inv) :
    inv.cwd = some c.repo ∧ ∃ rest, inv.args = .text "--repo" :: .text c.repo :: rest := by
  cases h with
  | operation hargs =>
      obtain ⟨words, -, h⟩ := bind_eq_ok hargs
      cases h
      exact ⟨rfl, _, rfl⟩
  | index hindex =>
      obtain ⟨hcwd, json, task, rest, heq⟩ := hindex.args_eq
      exact ⟨hcwd, _, heq⟩

/-! ## The index that the client reads -/

/-- An index that can be opened lies at the place that its path names. -/
theorem openIndex_eq_ok {c : Client} {files : Files} {db : String} {reader : Index.Reader}
    (hdb : c.index.path = .text db) (h : c.openIndex files .null = .ok reader) :
    ∃ e, files.find files.home db = .entry (placeOf files.home db) e := by
  have hopen : Index.Reader.openText db (files.index db) = .ok reader := by
    rw [openIndex, hdb] at h
    exact h
  cases hfind : files.find files.home db with
  | entry place e =>
      rw [Host.Files.find_eq_entry hfind]
      exact ⟨e, rfl⟩
  | missing =>
      simp only [Files.index, hfind] at hopen
      cases hopen
  | blocked =>
      simp only [Files.index, hfind] at hopen
      cases hopen

theorem repo_ne_empty {repo autoSync : Value} {transport : Except Failure Engine.Transport}
    {env : Engine.Environment} {layer : Index.Layer} {c : Client}
    (hmake : Client.make repo transport env autoSync layer = .ok c) : c.repo ≠ "" := by
  obtain ⟨path, hpath, h⟩ := bind_eq_ok hmake
  obtain ⟨reach, -, h⟩ := bind_eq_ok h
  obtain ⟨config, -, h⟩ := bind_eq_ok h
  cases h
  simp only [repoPath] at hpath
  split at hpath
  · cases hpath
  · split at hpath
    · cases hpath
    · split at hpath
      · cases hpath
      · next hblank =>
          cases hpath
          rintro (hempty : repo.plain = "")
          rw [hempty] at hblank
          exact hblank rfl

/-! ## One place or two -/

/-- An engine that is started in a directory and the client mean one place by a
path. -/
def MeansSame (files : Files) (engine : Place) (path : String) : Prop :=
  placeOf engine path = placeOf files.home path

/-- The default index lies in the directory of the repository, so it is meant
alike just in case the repository is. -/
theorem meansSame_default_iff {files : Files} {engine : Place} {repo : String}
    (hrepo : repo ≠ "") :
    MeansSame files engine (Index.joinPath repo Index.dbName) ↔ MeansSame files engine repo := by
  have hname : Host.parts Index.dbName = [Index.dbName] := by decide
  have hjoin (start : Place) :
      placeOf start (Index.joinPath repo Index.dbName) = placeOf start repo ++ [Index.dbName] := by
    rw [Host.placeOf_joinPath hrepo, hname]
    rfl
  rw [MeansSame, MeansSame, hjoin, hjoin, List.append_left_inj]

/-- Every invocation hands over the path of the repository as it was given and
starts the engine in that directory, and those for the index of the session hand
over the path of the database that the client reads.  The engine and the client
mean the same directory just in case the path is absolute or goes down as far as
it climbs, or climbs to the root and stays there.  They mean the same database
just in case its path is absolute or climbs to one place from both directories;
for the default database this is the condition on the repository. -/
theorem meansSame_iff {repo autoSync : Value} {transport : Except Failure Engine.Transport}
    {env : Engine.Environment} {layer : Index.Layer} {c : Client}
    (hmake : Client.make repo transport env autoSync layer = .ok c)
    {files : Files} {engine : Place} (hstart : Host.enter files (some c.repo) = .ok engine) :
    engine = placeOf files.home c.repo ∧
    (∀ inv, c.Invokes inv → inv.cwd = some c.repo ∧
      ∃ rest, inv.args = .text "--repo" :: .text c.repo :: rest) ∧
    (MeansSame files engine c.repo ↔ isAbsolute c.repo = true ∨
      (trail c.repo).names.length = (trail c.repo).ups ∨
      (files.home.length ≤ (trail c.repo).ups ∧
        (trail c.repo).names.length ≤ (trail c.repo).ups)) ∧
    ∀ db, c.index.path = .text db →
      (∀ inv, c.InvokesIndex c.index inv → ∃ json task rest,
        inv.args = Command.base (.text c.repo) json false true ++
          .text "index" :: .text (Command.IndexTask.word task) ::
            .text "--db" :: .text db :: rest) ∧
      (∀ reader, c.openIndex files .null = .ok reader →
        ∃ e, files.find files.home db = .entry (placeOf files.home db) e) ∧
      (MeansSame files engine db ↔ isAbsolute db = true ∨
        above (trail db).ups engine = above (trail db).ups files.home) ∧
      (db = Index.joinPath c.repo Index.dbName →
        (MeansSame files engine db ↔ MeansSame files engine c.repo)) := by
  have hengine := Host.enter_eq_ok hstart
  refine ⟨hengine, fun inv hinv => hinv.args_eq, ?_, ?_⟩
  · rw [hengine]
    exact Host.placeOf_placeOf_iff files.home c.repo
  · intro db hdb
    refine ⟨?_, fun reader hopen => openIndex_eq_ok hdb hopen,
      Host.placeOf_eq_placeOf_iff engine files.home db, ?_⟩
    · intro inv hinv
      rw [← hdb]
      exact hinv.args_eq.2
    · rintro rfl
      exact meansSame_default_iff (repo_ne_empty hmake)

/-- The engine looks for a repository with a relative name inside itself, and
keeps its index in another place than the one that the client reads. -/
theorem not_meansSame_relative :
    let files : Files := ⟨["work"], [(["work", "repo"], .directory)]⟩
    ∃ c, Client.make (.text "repo") (.ok (.scripted "engine")) [] (.bool true) (.value .null) =
        .ok c ∧
      Host.enter files (some c.repo) = .ok ["work", "repo"] ∧
      c.index.path = .text (Index.joinPath c.repo Index.dbName) ∧
      ¬ MeansSame files ["work", "repo"] c.repo ∧
      ¬ MeansSame files ["work", "repo"] (Index.joinPath c.repo Index.dbName) := by
  intro files
  have hjoin : Index.joinPath "repo" Index.dbName = "repo/index.db" := by decide +kernel
  obtain ⟨config, hconfig, hdb⟩ : ∃ config,
      Index.Config.ofSession "repo" (.value .null) = .ok config ∧
        config.path = .text "repo/index.db" := by
    simp only [Index.Config.ofSession, hjoin]
    exact ⟨_, rfl, rfl⟩
  have hmake : Client.make (.text "repo") (.ok (.scripted "engine")) [] (.bool true)
      (.value .null) =
        .ok ⟨"repo", .scripted "engine", .bool true, [], config, Command.callerRoom⟩ := by
    have hrepo : repoPath (.text "repo") = .ok "repo" := rfl
    simp only [make, hrepo, Except.bind, bind, hconfig]
    rfl
  have habsolute : isAbsolute "repo" = false := by decide +kernel
  have hstart : Host.enter files (some "repo") = .ok ["work", "repo"] := by
    simp only [Host.enter, Files.find, habsolute]
    rfl
  obtain ⟨-, -, hdirectory, hindex⟩ := meansSame_iff hmake hstart
  have hpath : config.path = .text (Index.joinPath "repo" Index.dbName) := by rw [hdb, hjoin]
  have hcondition : ¬ (isAbsolute "repo" = true ∨
      (trail "repo").names.length = (trail "repo").ups ∨
      (["work"].length ≤ (trail "repo").ups ∧
        (trail "repo").names.length ≤ (trail "repo").ups)) := by decide +kernel
  have hother : ¬ MeansSame files ["work", "repo"] "repo" := mt hdirectory.mp hcondition
  have hdefault := (hindex _ hpath).2.2.2 rfl
  exact ⟨_, hmake, hstart, hpath, hother, mt hdefault.mp hother⟩

end DocLedger.Client
