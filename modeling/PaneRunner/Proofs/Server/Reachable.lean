import PaneRunner.Proofs.Server.Outcomes
import PaneRunner.Proofs.Server.Windows
import PaneRunner.Proofs.Text.Numerals

/-
  The servers that can come up. One starts without sessions, answers requests, and is arranged from
  outside. Files are numbered in the order in which they are made and never renamed, in every server
  that can come up (`Reachable.numbered`), so the next file has a path of its own
  (`Numbered.path_fresh`).
-/
namespace PaneRunner.Simulation

open Text

/-- What is arranged from outside. -/
inductive Arrangement where
  | stopped
  | session (name : String) (windows : List String)
  | pane (session window : String) (lines : List String)
  | responder (f : String → List String)
  | exitCode (code : Int32)
  | completionDelay (looks : Nat)
  | captureDelay (reads : Nat)
  | captureOverride (lines : List String)
  | failure (f : Failure)

/-- The server after an arrangement. -/
def Arrangement.apply (server : Server) : Arrangement → Server
  | .stopped => { server with running := false }
  | .session name windows =>
    { server with
      running := true
      sessions := server.sessions ++ [{ name, windows := windows.map fun w => { name := w } }] }
  | .pane s w lines => server.onWindow (s ++ ":" ++ w) fun x => { x with pane := lines }
  | .responder f => { server with responder := f }
  | .exitCode code => { server with exitCode := code }
  | .completionDelay looks => { server with completionDelay := looks }
  | .captureDelay reads => { server with captureDelay := reads }
  | .captureOverride lines => { server with captureOverride := some lines }
  | .failure f => { server with failures := server.failures ++ [f] }

/-- The servers that can come up. -/
inductive Reachable : Server → Prop where
  | fresh : Reachable {}
  | asked {server : Server} (h : Reachable server) (r : Exec.Request) :
    Reachable (server.executor r).state
  | arranged {server : Server} (h : Reachable server) (a : Arrangement) :
    Reachable (a.apply server)

theorem Reachable.foldl_apply {server : Server} (h : Reachable server) (as : List Arrangement) :
    Reachable (as.foldl Arrangement.apply server) := by
  induction as generalizing server with
  | nil => exact h
  | cons a as ih => exact ih (h.arranged a)

namespace Server

/-! ## Paths -/

theorem toList_filePath (n : Nat) :
    (filePath n).toList =
      "/tmp/fake-tmux-capture-".toList ++ Decimal.digits n ++ ".log".toList := by
  have hdigits : (Decimal.ofNat n).toList = Decimal.digits n := String.toList_ofList
  unfold filePath
  rw [String.toList_append, String.toList_append]
  rw [hdigits]

theorem filePath_injective {m n : Nat} (h : filePath m = filePath n) : m = n := by
  have hlist := congrArg String.toList h
  rw [toList_filePath, toList_filePath] at hlist
  have hdigits := List.append_cancel_left (List.append_cancel_right hlist)
  rw [← Decimal.value_digits m, hdigits, Decimal.value_digits]

/-- The paths of the files are numbers that were given. -/
def Numbered (server : Server) : Prop :=
  ∀ path ∈ server.files.map Prod.fst, ∃ n ≤ server.filesMade, path = filePath n

/-- The same files, whatever they hold. -/
def SameFiles (server server' : Server) : Prop :=
  server'.files.map Prod.fst = server.files.map Prod.fst ∧ server'.filesMade = server.filesMade

variable {server server' server'' : Server}

theorem SameFiles.refl (server : Server) : SameFiles server server := ⟨rfl, rfl⟩

theorem SameFiles.trans (h : SameFiles server server') (h' : SameFiles server' server'') :
    SameFiles server server'' := ⟨h'.1.trans h.1, h'.2.trans h.2⟩

theorem Numbered.of_sameFiles (h : server.Numbered) (hsame : SameFiles server server') :
    server'.Numbered := by
  intro path hpath
  rw [hsame.1] at hpath
  rw [hsame.2]
  exact h path hpath

theorem Numbered.path_fresh (h : server.Numbered) :
    ∀ f ∈ server.files, f.1 ≠ filePath (server.filesMade + 1) := by
  intro f hf hpath
  obtain ⟨n, hn, hfn⟩ := h f.1 (List.mem_map_of_mem hf)
  have := filePath_injective (hpath.symm.trans hfn)
  omega

/-! ## What keeps the files -/

theorem sameFiles_onWindow (address : String) (f : Window → Window) :
    SameFiles server (server.onWindow address f) := by
  rw [onWindow_eq]
  exact SameFiles.refl server

theorem sameFiles_appendFile (path : String) (content : Bytes) :
    SameFiles server (server.appendFile path content) := by
  refine ⟨?_, rfl⟩
  rw [appendFile]
  dsimp only
  rw [List.map_map]
  refine List.map_congr_left fun f _ => ?_
  dsimp only [Function.comp]
  split <;> rfl

theorem sameFiles_complete (p : Pending) : SameFiles server (server.complete p) := by
  unfold complete
  split
  · exact SameFiles.refl server
  · have hshown : SameFiles server (server.onWindow p.address
        fun w => { w with pane := w.pane ++ p.paneLines }) := sameFiles_onWindow _ _
    dsimp only
    split
    · exact hshown
    · split
      · exact hshown.trans (sameFiles_appendFile _ _)
      · exact hshown

theorem sameFiles_submit (address typed : String) :
    SameFiles server (server.submit address typed) := by
  unfold submit
  split
  · exact sameFiles_onWindow _ _
  · dsimp only
    split
    · exact sameFiles_complete _
    · exact SameFiles.refl server

theorem sameFiles_press (address : String) (w : Window) (keys : List String) :
    SameFiles server (server.press address w keys) := by
  unfold press
  split
  · exact sameFiles_onWindow _ _
  · exact (sameFiles_onWindow _ _).trans (sameFiles_submit _ _)
  · exact (sameFiles_onWindow _ _).trans (sameFiles_submit _ _)
  · exact sameFiles_onWindow _ _
  · exact SameFiles.refl server

theorem sameFiles_advance (address : String) : SameFiles server (server.advance address) := by
  unfold advance
  split
  · exact SameFiles.refl server
  · rename_i p _
    dsimp only
    generalize (if p.address = address then p.pollsLeft - 1 else p.pollsLeft) = left
    split
    · have hsame : SameFiles server { server with pending := none } := ⟨rfl, rfl⟩
      exact hsame.trans (sameFiles_complete _)
    · exact SameFiles.refl server

theorem sameFiles_flush (path : String) : SameFiles server (server.flush path) := by
  unfold flush
  split
  · exact SameFiles.refl server
  · rename_i d _
    dsimp only
    generalize (if d.path = path then d.readsLeft - 1 else d.readsLeft) = left
    split
    · have hsame : SameFiles server { server with delayed := none } := ⟨rfl, rfl⟩
      exact hsame.trans (sameFiles_appendFile _ _)
    · exact SameFiles.refl server

theorem Wrote.sameFiles (h : Wrote server server') : SameFiles server server' := by
  cases h with
  | window address f => exact sameFiles_onWindow _ _
  | pressed address w keys => exact sameFiles_press _ _ _
  | looked address => exact sameFiles_advance _
  | _ => exact SameFiles.refl server

/-- No call makes, removes or renames a file. -/
theorem sameFiles_command (argv : List String) : SameFiles server (server.command argv).2 := by
  have hwent : Went server (server.command argv) := went_command argv
  generalize server.command argv = r at hwent ⊢
  cases hwent with
  | accepted h stdout => exact h.sameFiles
  | missed hgone stderr => exact sameFiles_advance _
  | _ => exact SameFiles.refl server

/-- Requests keep the numbering. -/
theorem Numbered.executor (h : server.Numbered) (r : Exec.Request) :
    (server.executor r).state.Numbered := by
  cases r with
  | run i =>
    refine h.of_sameFiles ?_
    change SameFiles server (server.invoke i).2
    unfold invoke
    split
    · exact SameFiles.refl server
    · rename_i program args _
      have hsame : SameFiles server { server with calls := (program :: args) :: server.calls } :=
        ⟨rfl, rfl⟩
      exact hsame.trans (sameFiles_command _)
  | newFile =>
    intro path hpath
    change path ∈ (server.files ++ [(filePath (server.filesMade + 1), [])]).map Prod.fst at hpath
    rw [List.map_append, List.mem_append] at hpath
    rcases hpath with hpath | hpath
    · obtain ⟨n, hn, hp⟩ := h path hpath
      exact ⟨n, Nat.le_succ_of_le hn, hp⟩
    · exact ⟨server.filesMade + 1, Nat.le_refl _, List.mem_singleton.1 hpath⟩
  | contents path =>
    refine h.of_sameFiles ?_
    have hsame : SameFiles server { server with fileReads := server.fileReads + 1 } := ⟨rfl, rfl⟩
    exact hsame.trans (sameFiles_flush path)
  | removeFile path =>
    intro path' hpath
    change path' ∈ (server.files.filter fun f => f.1 != path).map Prod.fst at hpath
    obtain ⟨f, hf, rfl⟩ := List.mem_map.1 hpath
    exact h _ (List.mem_map_of_mem (List.mem_filter.1 hf).1)

end Server

theorem Reachable.numbered {server : Server} (h : Reachable server) : server.Numbered := by
  induction h with
  | fresh =>
    intro path hpath
    cases hpath
  | asked _ r ih => exact ih.executor r
  | arranged _ a ih =>
    refine ih.of_sameFiles ?_
    cases a with
    | pane s w lines => exact Server.sameFiles_onWindow _ _
    | _ => exact ⟨rfl, rfl⟩

end PaneRunner.Simulation
