import PaneRunner.Proofs.Server.Scene
import PaneRunner.Tmux.Run

/-
  Reading the capture file while it may be behind. The file is read until it holds the end marker;
  if none of the reads that the settings allow shows it, one more read is taken as it is, so a file
  may stay behind for one read more than that (`ends_captureLines`).
-/
namespace PaneRunner.Simulation.Scene

open Text Plan Server

variable {cfg : Tmux.Settings} {w : Tmux.Window} {server : Server} {sc : Scene}
  {log : List Server} {path : String} {files : List (String × Bytes)}

/-! ## A new file among others -/

theorem appended_last (hfresh : ∀ f ∈ files, f.1 ≠ path) (content more : Bytes) :
    appended (files ++ [(path, content)]) path more = files ++ [(path, content ++ more)] := by
  have hsame : appended files path more = files := by
    refine (List.map_congr_left fun f hf => ?_).trans (List.map_id files)
    exact if_neg (hfresh f hf)
  have hlast : appended [(path, content)] path more = [(path, content ++ more)] := by
    rw [appended, List.map_singleton]
    exact congrArg (fun f => [f]) (if_pos rfl)
  rw [appended] at hsame hlast ⊢
  rw [List.map_append, hsame, hlast]

theorem lookup_last (hfresh : ∀ f ∈ files, f.1 ≠ path) (content : Bytes) :
    (files ++ [(path, content)]).lookup path = some content := by
  induction files with
  | nil => simp
  | cons f files ih =>
    have hne : (path == f.1) = false := by
      simpa using Ne.symm (hfresh f List.mem_cons_self)
    rw [List.cons_append, List.lookup_cons, hne]
    exact ih fun g hg => hfresh g (List.mem_cons_of_mem _ hg)

theorem filter_last (hfresh : ∀ f ∈ files, f.1 ≠ path) (content : Bytes) :
    (files ++ [(path, content)]).filter (fun f => f.1 != path) = files := by
  rw [List.filter_append, List.filter_eq_self.2 (by simpa using hfresh)]
  simp

/-! ## Reads -/

theorem executor_contents {content : Bytes} (h : (sc.read path).files.lookup path = some content) :
    executor (.contents path) (sc.on server w.target) =
      { value := .ok content, state := (sc.read path).on server w.target } := by
  rw [executor, readFile_on]
  dsimp only
  rw [h]

theorem watching_contents {content : Bytes}
    (h : (sc.read path).files.lookup path = some content) :
    watching cfg w (.contents path) (sc.on server w.target, log) =
      { value := .ok content, state := ((sc.read path).on server w.target, log) } := by
  have hne : Exec.Request.contents path ≠ closing cfg w := by
    rw [closing]
    exact fun e => by cases e
  rw [watching_of_ne hne, executor_contents h]

theorem ends_fileLines {content : Bytes} (h : (sc.read path).files.lookup path = some content) :
    Ends (watching cfg w) (Tmux.fileLines path).run (sc.on server w.target, log)
      (.ok (Exec.fileLines content)) ((sc.read path).on server w.target, log) := by
  have hread : watching cfg w (.contents path) (sc.on server w.target, log) = _ :=
    watching_contents h
  refine Ends.seq (Ends.ofAnswer (a := .ok content) (Ends.request ?_ ?_)) (Ends.pure _ _)
  · rw [hread]
  · rw [hread]

/-- The capture file is read `m` times as an empty file, and then with `content`. `st i` is the
scene before read number `i`. -/
theorem ends_captureLines (st : Nat → Scene) {m n : Nat} {content : Bytes}
    (hlimit : cfg.captureFlush.limit = .attempts n)
    (hread : ∀ i ≤ m, (st i).read path = st (i + 1))
    (hbehind : ∀ i < m, (st (i + 1)).files.lookup path = some [])
    (hfile : (st (m + 1)).files.lookup path = some content)
    (hcase : m < n ∧ Tmux.holdsMarker (Exec.fileLines content) cfg.marker = true ∨ m = n) :
    Ends (watching cfg w) (cfg.captureLines path).run ((st 0).on server w.target, log)
      (.ok (Exec.fileLines content)) ((st (m + 1)).on server w.target, log) := by
  have hempty : ∀ i < m, watching cfg w (.contents path) ((st i).on server w.target, log) =
      { value := .ok [], state := ((st (i + 1)).on server w.target, log) } := by
    intro i hi
    rw [watching_contents (by rw [hread i (by omega)]; exact hbehind i hi), hread i (by omega)]
  have hwait : ∀ i < m, ∃ bs, (watching cfg w (.contents path)
      ((st i).on server w.target, log)).value = .ok bs ∧
        (if Tmux.holdsMarker (Exec.fileLines bs) cfg.marker then some (Exec.fileLines bs)
          else none) = none :=
    fun i hi => ⟨[], by rw [hempty i hi], rfl⟩
  have hlast := hread m (Nat.le_refl m)
  rcases hcase with ⟨hm, hholds⟩ | rfl
  · have hfull : watching cfg w (.contents path) ((st m).on server w.target, log) =
        { value := .ok content, state := ((st (m + 1)).on server w.target, log) } := by
      rw [watching_contents (by rw [hlast]; exact hfile), hlast]
    refine Ends.pollOn_ready (fun i => ((st i).on server w.target, log)) (a := content)
      (fun i hi => ?_) hwait ?_ (if_pos hholds) ?_
    · rcases Nat.eq_or_lt_of_le hi with rfl | hi
      · rw [hfull]
      · rw [hempty i hi]
    · rw [hfull]
    · rw [hlimit]
      exact Poll.Limit.allows_attempts hm
  · refine Ends.pollOn_gaveUp (fun i => ((st i).on server w.target, log)) hlimit
      (fun i hi => by rw [hempty i hi]) hwait (fun _ => rfl) ?_
    rw [← hlast]
    exact ends_fileLines (by rw [hlast]; exact hfile)

/-! ## A file that stays behind -/

/-- The scene after some reads of a new file that stays behind for `delay` reads. -/
def behind (sc : Scene) (files : List (String × Bytes)) (path : String) (content : Bytes)
    (delay reads : Nat) : Scene :=
  if reads < delay then
    { sc with
      files := files ++ [(path, [])]
      delayed := some { path, readsLeft := delay - reads, content }
      fileReads := sc.fileReads + reads }
  else
    { sc with
      files := files ++ [(path, content)]
      delayed := none
      fileReads := sc.fileReads + reads }

theorem read_behind (hfresh : ∀ f ∈ files, f.1 ≠ path) (content : Bytes) (delay reads : Nat) :
    (sc.behind files path content delay reads).read path =
      sc.behind files path content delay (reads + 1) := by
  by_cases hbehind : reads < delay
  · rw [behind, if_pos hbehind, read, behind]
    dsimp only
    rw [if_pos rfl]
    by_cases hlast : delay - reads - 1 = 0
    · rw [if_pos hlast, if_neg (by omega), appended_last hfresh]
      rfl
    · rw [if_neg hlast, if_pos (by omega), Nat.sub_sub]
      rfl
  · rw [behind, if_neg hbehind, read, behind, if_neg (by omega)]
    rfl

/-- A command that ends fills the file that its window is piped into. -/
theorem complete_behind (sc : Scene) (hfresh : ∀ f ∈ files, f.1 ≠ path) (hpipe : sc.pipe = some path)
    (hfiles : sc.files = files ++ [(path, [])]) (hdelayed : sc.delayed = none) (delay : Nat)
    (p : Pending) :
    sc.complete delay p =
      ({ sc with pane := sc.pane ++ p.paneLines } : Scene).behind files path
        (Utf8.encode p.capture) delay 0 := by
  rw [complete, hpipe, behind]
  dsimp only
  by_cases hnow : delay = 0
  · rw [if_pos hnow, if_neg (by omega), hfiles, appended_last hfresh, hdelayed]
    rfl
  · rw [if_neg hnow, if_pos (by omega), hfiles]
    rfl

theorem behind_with (sc : Scene) (files : List (String × Bytes)) (path : String)
    (content : Bytes) (delay reads : Nat) (pipe : Option String) (pending : Option Pending)
    (calls : List (List String)) :
    { sc.behind files path content delay reads with pipe, pending, calls } =
      ({ sc with pipe, pending, calls } : Scene).behind files path content delay reads := by
  rw [behind, behind]
  split <;> rfl

theorem pane_behind (sc : Scene) (files : List (String × Bytes)) (path : String)
    (content : Bytes) (delay reads : Nat) :
    (sc.behind files path content delay reads).pane = sc.pane := by
  rw [behind]
  split <;> rfl

variable (cfg w server sc log)

/-- A file that stays behind for no more reads than the settings allow and one more is read to its
end. -/
theorem ends_captureLines_behind {delay n : Nat} {content : Bytes}
    (hfresh : ∀ f ∈ files, f.1 ≠ path) (hlimit : cfg.captureFlush.limit = .attempts n)
    (hdelay : delay ≤ n + 1)
    (hholds : Tmux.holdsMarker (Exec.fileLines content) cfg.marker = true) :
    ∃ reads, Ends (watching cfg w) (cfg.captureLines path).run
      ((sc.behind files path content delay 0).on server w.target, log)
      (.ok (Exec.fileLines content))
      (({ sc with files := files ++ [(path, content)], delayed := none, fileReads := reads } :
        Scene).on server w.target, log) := by
  have hend : sc.behind files path content delay (delay - 1 + 1) =
      { sc with
        files := files ++ [(path, content)]
        delayed := none
        fileReads := sc.fileReads + (delay - 1 + 1) } :=
    if_neg (by omega)
  refine ⟨sc.fileReads + (delay - 1 + 1), ?_⟩
  rw [← hend]
  refine ends_captureLines (sc.behind files path content delay) hlimit
    (fun i _ => read_behind hfresh content delay i) (fun i hi => ?_) ?_ ?_
  · rw [behind, if_pos (by omega)]
    exact lookup_last hfresh []
  · rw [hend]
    exact lookup_last hfresh content
  · rcases Nat.lt_or_ge (delay - 1) n with h | h
    · exact Or.inl ⟨h, hholds⟩
    · exact Or.inr (by omega)

/-- A file to which nothing is written is read as empty in the end. -/
theorem ends_captureLines_empty {n : Nat} (hfresh : ∀ f ∈ files, f.1 ≠ path)
    (hlimit : cfg.captureFlush.limit = .attempts n) (hfiles : sc.files = files ++ [(path, [])])
    (hdelayed : sc.delayed = none) :
    ∃ reads, Ends (watching cfg w) (cfg.captureLines path).run (sc.on server w.target, log)
      (.ok []) (({ sc with fileReads := reads } : Scene).on server w.target, log) := by
  have hlookup : sc.files.lookup path = some [] := by
    rw [hfiles]
    exact lookup_last hfresh []
  refine ⟨sc.fileReads + (n + 1), ?_⟩
  refine ends_captureLines (fun i => { sc with fileReads := sc.fileReads + i }) hlimit
    (fun i _ => ?_) (fun _ _ => hlookup) hlookup (Or.inr rfl)
  rw [read]
  dsimp only
  rw [hdelayed]
  rfl

end PaneRunner.Simulation.Scene
