import Mathlib.Data.List.Nodup
import PaneRunner.Proofs.Trace.Window

/-
  Cleaning up after a run. From the making of the capture file on, a run that ends goes one of two
  ways (`Finished`): the pipe is not opened, or it is opened and closed again, whatever became of the
  typing and the wait (`Waited`); either way the file is removed with the last request. The result is
  the first failure among typing and waiting, closing the pipe, and reading (`Concluded`), and how
  the removal is answered does not change it (`run_fst_congr`).
-/
namespace PaneRunner.Tmux.Window

open Plan

/-! ## What a run does with its file -/

section Description

variable (cfg : Settings) (w : Window) (argv : List String) (acceptAny : Bool) (path : String)

/-- Good looks at a screen that does not show the end marker. -/
def Unmarked (looks : List (Except Exec.Error Exec.Output)) : Prop :=
  ∀ a ∈ looks, ∃ o, a = .ok o ∧ cfg.showsMarker o = false

/-- How looking for the end marker went. -/
inductive Looked : List (Exchange Exec.Answer) → Except Error Unit → Prop where
  | failed {looks : List (Except Exec.Error Exec.Output)} (hlooks : Unmarked cfg looks)
      (e : Exec.Error) :
      Looked (looks.map (Sigma.mk (w.looking cfg)) ++ [⟨w.looking cfg, .error e⟩])
        (.error (.exec e))
  | seen {looks : List (Except Exec.Error Exec.Output)} (hlooks : Unmarked cfg looks)
      {shown : Exec.Output} (hshown : cfg.showsMarker shown = true) :
      Looked (looks.map (Sigma.mk (w.looking cfg)) ++ [⟨w.looking cfg, .ok shown⟩]) (.ok ())
  | late {looks : List (Except Exec.Error Exec.Output)} (hlooks : Unmarked cfg looks)
      {limit elapsed : Duration} (hlimit : cfg.commandTimeout = some limit)
      (hlate : limit ≤ elapsed) :
      Looked (looks.map (Sigma.mk (w.looking cfg)))
        (.error (.timeout w.address ("^" ++ Regex.escape cfg.marker) elapsed))

/-- How typing the command line and waiting for its end went. -/
inductive Waited : List (Exchange Exec.Answer) → Except Error Unit → Prop where
  | lineFailed (e : Exec.Error) : Waited [⟨w.typing cfg argv, .error e⟩] (.error (.exec e))
  | keyFailed (o : Exec.Output) (e : Exec.Error) :
      Waited [⟨w.typing cfg argv, .ok o⟩, ⟨w.entering cfg, .error e⟩] (.error (.exec e))
  | entered (o o' : Exec.Output) {looks : List (Exchange Exec.Answer)}
      {result : Except Error Unit} (hlooked : Looked cfg w looks result) :
      Waited (⟨w.typing cfg argv, .ok o⟩ :: ⟨w.entering cfg, .ok o'⟩ :: looks) result

/-- Good reads of a file that does not hold the end marker. -/
def Unflushed (reads : List (Except Exec.Error Bytes)) : Prop :=
  ∀ a ∈ reads, ∃ content, a = .ok content ∧ holdsMarker (Exec.fileLines content) cfg.marker = false

/-- How reading the capture file went. -/
inductive ReadBack : List (Exchange Exec.Answer) → Except Error (List Bytes) → Prop where
  | failed {reads : List (Except Exec.Error Bytes)} (hreads : Unflushed cfg reads)
      (e : Exec.Error) :
      ReadBack (reads.map (Sigma.mk (.contents path)) ++ [⟨.contents path, .error e⟩])
        (.error (.exec e))
  | flushed {reads : List (Except Exec.Error Bytes)} (hreads : Unflushed cfg reads)
      {content : Bytes} (hcontent : holdsMarker (Exec.fileLines content) cfg.marker = true) :
      ReadBack (reads.map (Sigma.mk (.contents path)) ++ [⟨.contents path, .ok content⟩])
        (.ok (Exec.fileLines content))
  | asItIs {reads : List (Except Exec.Error Bytes)} (hreads : Unflushed cfg reads)
      {rep : Poll.Report} (hrep : cfg.captureFlush.limit.Exhausts rep)
      (hlength : reads.length = rep.attempts) (a : Except Exec.Error Bytes) :
      ReadBack (reads.map (Sigma.mk (.contents path)) ++ [⟨.contents path, a⟩])
        ((a.mapError .exec).map Exec.fileLines)

/-- What comes of a run when the pipe has been closed: the file is read only if nothing failed, and
the first failure is the result. -/
inductive Concluded : Except Error Unit → Except Exec.Error Exec.Output →
    List (Exchange Exec.Answer) → Except Error Exec.Output → Prop where
  | notWaited (e : Error) (stopped : Except Exec.Error Exec.Output) :
      Concluded (.error e) stopped [] (.error e)
  | notStopped (e : Exec.Error) : Concluded (.ok ()) (.error e) [] (.error (.exec e))
  | notRead (o : Exec.Output) {reads : List (Exchange Exec.Answer)} {e : Error}
      (hreads : ReadBack cfg path reads (.error e)) : Concluded (.ok ()) (.ok o) reads (.error e)
  | read (o : Exec.Output) {reads : List (Exchange Exec.Answer)} {ls : List Bytes}
      (hreads : ReadBack cfg path reads (.ok ls)) :
      Concluded (.ok ()) (.ok o) reads
        ((readCapture ls cfg.marker).bind fun c => w.judge argv acceptAny c)

/-- What a run that ends does from the making of the file on. -/
inductive Finished : List (Exchange Exec.Answer) → Except Error Exec.Output → Prop where
  | notOpened (e : Exec.Error) (removed : Except Exec.Error Unit) :
      Finished [⟨w.opening cfg path, .error e⟩, ⟨.removeFile path, removed⟩] (.error (.exec e))
  | closed (o : Exec.Output) {typed : List (Exchange Exec.Answer)} {waited : Except Error Unit}
      (hwaited : Waited cfg w argv typed waited) (stopped : Except Exec.Error Exec.Output)
      {reads : List (Exchange Exec.Answer)} {result : Except Error Exec.Output}
      (hreads : Concluded cfg w argv acceptAny path waited stopped reads result)
      (removed : Except Exec.Error Unit) :
      Finished (⟨w.opening cfg path, .ok o⟩ :: (typed ++ ⟨w.closing cfg, stopped⟩ ::
        (reads ++ [⟨.removeFile path, removed⟩]))) result

/-- The pipe was opened. -/
def Opened (t : List (Exchange Exec.Answer)) : Prop :=
  ∃ o : Exec.Output, (⟨w.opening cfg path, .ok o⟩ : Exchange Exec.Answer) ∈ t

/-- A run that made the file at `path`, exchanged `t` and came to `result` has cleaned up. -/
structure Cleanup (t : List (Exchange Exec.Answer)) (result : Except Error Exec.Output) : Prop where
  removed_once : (requests t).count (.removeFile path) = 1
  removed_last : (requests t).getLast? = some (.removeFile path)
  opened_once : (requests t).count (w.opening cfg path) = 1
  closed_once : Opened cfg w path t → (requests t).count (w.closing cfg) = 1
  closed_never : ¬ Opened cfg w path t → (requests t).count (w.closing cfg) = 0
  /-- no other pipe is opened or closed -/
  pipes : ∀ r ∈ requests t, subcommand? r = some "pipe-pane" →
    r = w.opening cfg path ∨ r = w.closing cfg
  closed_after : Precedes (fun x => ∃ o : Exec.Output, x = ⟨w.opening cfg path, .ok o⟩)
    (fun x => x.1 = w.closing cfg) t
  read_after : Precedes (fun x => x.1 = w.closing cfg) (fun x => ∃ p, x.1 = .contents p) t
  outcome : ∃ before after, t = before ++ ⟨.newFile, .ok path⟩ :: after ∧
    Finished cfg w argv acceptAny path after result

end Description

/-! ## Runs go that way -/

variable {cfg : Settings} {w : Window} {argv : List String} {acceptAny : Bool} {path : String}
  {t : List (Exchange Exec.Answer)}

theorem looked_of_traces {waited : Except Error Unit}
    (h : Traces (w.awaitMarker cfg).run t (some waited)) : Looked cfg w t waited := by
  obtain ⟨misses, hmisses, hend⟩ := (Traces.of_pollOn h).of_some
  have hunmarked : Unmarked cfg misses := by
    intro a ha
    obtain ⟨shown, hview, hcheck⟩ := hmisses a ha
    exact ⟨shown, hview, by simpa [Settings.showsMarker] using hcheck⟩
  rcases hend with ⟨a, shown, _, rfl, hview, hcheck, rfl⟩ | ⟨a, e, rfl, hview, rfl⟩ |
    ⟨rep, t', rfl, hrep, -, hlate⟩
  · obtain rfl : a = .ok shown := hview
    exact .seen hunmarked (by simpa [Settings.showsMarker] using hcheck)
  · obtain rfl : a = .error e := hview
    exact .failed hunmarked e
  · obtain ⟨rfl, hv⟩ := Traces.of_throw hlate
    cases hv
    rw [List.append_nil]
    cases hlimit : cfg.commandTimeout with
    | none =>
      rw [Settings.commandCompletion, hlimit] at hrep
      exact absurd hrep (Poll.Limit.not_exhausts_unbounded rep)
    | some limit =>
      rw [Settings.commandCompletion, hlimit] at hrep
      exact .late hunmarked hlimit hrep.le_elapsed

theorem waited_of_traces {waited : Except Error Unit}
    (h : Traces (w.typeAndAwait cfg argv).run t (some waited)) : Waited cfg w argv t waited := by
  rcases of_typeAndAwait h with ⟨a, rfl, hv | ⟨e, rfl, hv⟩⟩ | ⟨o, a, rfl, hv | ⟨e, rfl, hv⟩⟩ |
    ⟨o, o', looks, rfl, hlooks⟩
  · cases hv
  · cases hv
    exact .lineFailed e
  · cases hv
  · cases hv
    exact .keyFailed o e
  · exact .entered o o' (looked_of_traces hlooks)

theorem readBack_of_traces {ls : Except Error (List Bytes)}
    (h : Traces (cfg.captureLines path).run t (some ls)) : ReadBack cfg path t ls := by
  obtain ⟨misses, hmisses, hend⟩ := (Traces.of_pollOn h).of_some
  have hunflushed : Unflushed cfg misses := by
    intro a ha
    obtain ⟨content, hview, hcheck⟩ := hmisses a ha
    exact ⟨content, hview, by simpa using hcheck⟩
  rcases hend with ⟨a, content, found, rfl, hview, hcheck, rfl⟩ | ⟨a, e, rfl, hview, rfl⟩ |
    ⟨rep, t', rfl, hrep, hlength, hlate⟩
  · obtain rfl : a = .ok content := hview
    dsimp only at hcheck
    split at hcheck
    · rename_i hholds
      cases hcheck
      exact .flushed hunflushed hholds
    · cases hcheck
  · obtain rfl : a = .error e := hview
    exact .failed hunflushed e
  · rcases Traces.of_answer_seq (r := .contents path) (fun a => a) hlate with
      ⟨a, rfl, hv | ⟨e, ha, hv⟩⟩ | ⟨a, content, t'', rfl, ha, hread⟩
    · cases hv
    · obtain rfl : a = .error e := ha
      cases hv
      exact .asItIs hunflushed hrep hlength (.error e)
    · obtain rfl : a = .ok content := ha
      obtain ⟨rfl, hv⟩ := Traces.of_pure hread
      cases hv
      exact .asItIs hunflushed hrep hlength (.ok content)

theorem concluded_of_traces {waited : Except Error Unit} {stopped : Except Exec.Error Exec.Output}
    {result : Except Error Exec.Output}
    (h : Traces (w.conclude cfg path argv acceptAny waited (stopped.mapError .exec)).run t
      (some result)) : Concluded cfg w argv acceptAny path waited stopped t result := by
  rcases Traces.of_ofExcept_seq h with ⟨e, rfl, rfl, hv⟩ | ⟨-, rfl, hstopped⟩
  · cases hv
    exact .notWaited e stopped
  rcases Traces.of_ofExcept_seq hstopped with ⟨e, he, rfl, hv⟩ | ⟨o, ho, hread⟩
  · cases stopped with
    | error e' =>
      cases he
      cases hv
      exact .notStopped e'
    | ok o => cases he
  cases stopped with
  | error e => cases ho
  | ok o' =>
    rcases Traces.of_seq hread with ⟨hv, -⟩ | ⟨e, hv, hreads⟩ | ⟨t₁, t₂, ls, rfl, hreads, hend⟩
    · cases hv
    · cases hv
      exact .notRead o' (readBack_of_traces hreads)
    have hresult : t₂ = [] ∧
        ((readCapture ls cfg.marker).bind fun c => w.judge argv acceptAny c) = result := by
      rcases Traces.of_ofExcept_seq hend with ⟨e, hparse, rfl, hv⟩ | ⟨c, hparse, hjudge⟩
      · cases hv
        exact ⟨rfl, by rw [hparse]; rfl⟩
      · obtain ⟨rfl, hv⟩ := Traces.of_ofExcept hjudge
        cases hv
        exact ⟨rfl, by rw [hparse]; rfl⟩
    obtain ⟨rfl, rfl⟩ := hresult
    rw [List.append_nil]
    exact .read o' (readBack_of_traces hreads)

/-- What a run that ends does from the making of the file on. -/
theorem finished_of_traces {into : List (Exchange Exec.Answer)} {result : Except Error Exec.Output}
    (h : Traces (w.runInto cfg path argv acceptAny).run into (some result))
    (removed : Except Exec.Error Unit) :
    Finished cfg w argv acceptAny path (into ++ [⟨.removeFile path, removed⟩]) result := by
  rcases of_runInto h with ⟨a, rfl, hv | ⟨e, rfl, hv⟩⟩ | ⟨o, typed, hv, -⟩ |
    ⟨o, typed, waited, stopped, rest, rfl, htyped, ⟨hv, -⟩ | hrest⟩
  · cases hv
  · cases hv
    exact .notOpened e removed
  · cases hv
  · cases hv
  · rw [List.cons_append, List.append_assoc, List.cons_append]
    exact .closed o (waited_of_traces htyped) stopped (concluded_of_traces hrest) removed

/-! ## Finished runs are clean -/

theorem eq_of_mem_requests {r r' : Exec.Request} (answers : List (Exec.Answer r))
    (h : r' ∈ requests (answers.map (Sigma.mk r))) : r' = r := by
  obtain ⟨x, hx, rfl⟩ := List.mem_map.1 h
  obtain ⟨a, -, rfl⟩ := List.mem_map.1 hx
  rfl

theorem eq_of_mem_requests_append {r r' : Exec.Request} (answers : List (Exec.Answer r))
    (a : Exec.Answer r) (h : r' ∈ requests (answers.map (Sigma.mk r) ++ [⟨r, a⟩])) : r' = r := by
  rw [requests, List.map_append, List.mem_append] at h
  exact h.elim (eq_of_mem_requests answers) List.mem_singleton.1

theorem Looked.asked {waited : Except Error Unit} (h : Looked cfg w t waited) :
    ∀ r ∈ requests t, r = w.looking cfg := by
  intro r hr
  cases h with
  | failed hlooks e => exact eq_of_mem_requests_append _ _ hr
  | seen hlooks hshown => exact eq_of_mem_requests_append _ _ hr
  | late hlooks hlimit hlate => exact eq_of_mem_requests _ hr

theorem Waited.asked {waited : Except Error Unit} (h : Waited cfg w argv t waited) :
    ∀ r ∈ requests t, subcommand? r = some "send-keys" ∨ r = w.looking cfg := by
  intro r hr
  cases h with
  | lineFailed e =>
    obtain rfl := List.mem_singleton.1 hr
    exact Or.inl rfl
  | keyFailed o e =>
    rcases List.mem_cons.1 hr with rfl | hr
    · exact Or.inl rfl
    · obtain rfl := List.mem_singleton.1 hr
      exact Or.inl rfl
  | entered o o' hlooked =>
    rcases List.mem_cons.1 hr with rfl | hr
    · exact Or.inl rfl
    rcases List.mem_cons.1 hr with rfl | hr
    · exact Or.inl rfl
    · exact Or.inr (hlooked.asked r hr)

theorem ReadBack.asked {ls : Except Error (List Bytes)} (h : ReadBack cfg path t ls) :
    ∀ r ∈ requests t, r = .contents path := by
  intro r hr
  cases h with
  | failed hreads e => exact eq_of_mem_requests_append _ _ hr
  | flushed hreads hcontent => exact eq_of_mem_requests_append _ _ hr
  | asItIs hreads hrep hlength a => exact eq_of_mem_requests_append _ _ hr

theorem Concluded.asked {waited : Except Error Unit} {stopped : Except Exec.Error Exec.Output}
    {result : Except Error Exec.Output}
    (h : Concluded cfg w argv acceptAny path waited stopped t result) :
    ∀ r ∈ requests t, r = .contents path := by
  cases h with
  | notWaited e stopped => exact fun r hr => absurd hr List.not_mem_nil
  | notStopped e => exact fun r hr => absurd hr List.not_mem_nil
  | notRead o hreads => exact hreads.asked
  | read o hreads => exact hreads.asked

/-- Requests that a run may make often: it lists and makes sessions and windows, looks, types, and
reads the file. -/
def repeats : Exec.Request → Bool
  | .run i => ("capture-pane" :: "send-keys" :: makers).any fun sub => i.argv[1]? == some sub
  | .contents _ => true
  | _ => false

theorem repeats_of_subcommand {r : Exec.Request} {sub : String} (h : subcommand? r = some sub)
    (hsub : sub ∈ "capture-pane" :: "send-keys" :: makers) : repeats r = true := by
  cases r with
  | run i => exact List.any_eq_true.2 ⟨sub, hsub, beq_iff_eq.2 h⟩
  | newFile => cases h
  | contents path => cases h
  | removeFile path => cases h

theorem repeats_of_pipe {r : Exec.Request} (h : subcommand? r = some "pipe-pane") :
    repeats r = false := by
  cases r with
  | run i =>
    rw [subcommand?] at h
    rw [repeats, h]
    decide
  | newFile => rfl
  | contents path => cases h
  | removeFile path => rfl

theorem Prepares.repeats {r : Exec.Request} (h : Prepares r) : repeats r = true := by
  obtain ⟨sub, hsub, hr⟩ := h
  refine repeats_of_subcommand hr ?_
  rw [List.mem_cons] at hsub ⊢
  exact hsub.imp_right (List.mem_cons_of_mem _)

/-- The requests that a run makes once, if all that it makes in between repeat. -/
abbrev singles (t : List (Exchange Exec.Answer)) : List Exec.Request :=
  (requests t).filter fun r => !repeats r

theorem singles_append (t₁ t₂ : List (Exchange Exec.Answer)) :
    singles (t₁ ++ t₂) = singles t₁ ++ singles t₂ := by
  rw [singles, requests, List.map_append, List.filter_append]

theorem singles_eq_nil (h : ∀ r ∈ requests t, repeats r = true) : singles t = [] := by
  rw [singles, List.filter_eq_nil_iff]
  intro r hr
  simp [h r hr]

theorem singles_cons {x : Exchange Exec.Answer} (hx : repeats x.1 = false) :
    singles (x :: t) = x.1 :: singles t := by
  rw [singles, requests, List.map_cons, List.filter_cons, hx]
  rfl

theorem count_singles {r : Exec.Request} (hr : repeats r = false) :
    (singles t).count r = (requests t).count r :=
  List.count_filter (by rw [hr]; rfl)

theorem Finished.asked_once {result : Except Error Exec.Output}
    (h : Finished cfg w argv acceptAny path t result) :
    (¬ Opened cfg w path t ∧ singles t = [w.opening cfg path, .removeFile path]) ∨
      (Opened cfg w path t ∧
        singles t = [w.opening cfg path, w.closing cfg, .removeFile path]) := by
  cases h with
  | notOpened e removed => 
    refine Or.inl ⟨?_, rfl⟩
    rintro ⟨o, ho⟩
    simp at ho
  | @closed o typed waited hwaited stopped reads _ hreads removed =>
    refine Or.inr ⟨⟨o, List.mem_cons_self⟩, ?_⟩
    have htyped : singles typed = [] := by
      refine singles_eq_nil fun r hr => ?_
      rcases hwaited.asked r hr with hsub | rfl
      · exact repeats_of_subcommand hsub (by decide)
      · rfl
    have hreads : singles reads = [] := by
      refine singles_eq_nil fun r hr => ?_
      rw [hreads.asked r hr]
      rfl
    rw [singles_cons rfl, singles_append, htyped, List.nil_append, singles_cons rfl,
      singles_append, hreads]
    rfl

theorem Finished.closed_after {result : Except Error Exec.Output}
    (h : Finished cfg w argv acceptAny path t result) :
    Precedes (fun x => ∃ o : Exec.Output, x = ⟨w.opening cfg path, .ok o⟩)
      (fun x => x.1 = w.closing cfg) t := by
  have hopening := opening_ne_closing cfg w path
  cases h with
  | notOpened e removed =>
    refine .of_none fun x hx => ?_
    rcases List.mem_cons.1 hx with rfl | hx
    · exact hopening
    · obtain rfl := List.mem_singleton.1 hx
      intro hremove
      cases hremove
  | closed o hwaited stopped hreads removed =>
    refine Precedes.of_head ?_ ?_ _
    · exact ⟨o, rfl⟩
    · exact hopening

theorem Finished.read_after {result : Except Error Exec.Output}
    (h : Finished cfg w argv acceptAny path t result) :
    Precedes (fun x => x.1 = w.closing cfg) (fun x => ∃ p, x.1 = .contents p) t := by
  cases h with
  | notOpened e removed =>
    refine .of_none fun x hx hread => ?_
    obtain ⟨p, hp⟩ := hread
    rcases List.mem_cons.1 hx with rfl | hx
    · cases hp
    · obtain rfl := List.mem_singleton.1 hx
      cases hp
  | @closed o typed waited hwaited stopped reads _ hreads removed =>
    have htyped : ∀ x ∈ typed, ¬ ∃ p, x.1 = .contents p := by
      rintro x hx ⟨p, hp⟩
      rcases hwaited.asked x.1 (List.mem_map_of_mem hx) with hsub | hlook
      · rw [hp] at hsub
        cases hsub
      · rw [hp] at hlook
        cases hlook
    have hopening : ¬ ∃ p, w.opening cfg path = .contents p := by
      rintro ⟨p, hp⟩
      cases hp
    have hclosing : ¬ ∃ p, w.closing cfg = .contents p := by
      rintro ⟨p, hp⟩
      cases hp
    rw [← List.cons_append]
    refine .append_left (List.forall_mem_cons.2 ⟨hopening, htyped⟩) ?_
    refine Precedes.of_head ?_ ?_ _
    · rfl
    · exact hclosing

theorem Finished.removed_last {result : Except Error Exec.Output}
    (h : Finished cfg w argv acceptAny path t result) :
    ∃ l, requests t = l ++ [.removeFile path] := by
  cases h with
  | notOpened e removed => exact ⟨[w.opening cfg path], rfl⟩
  | @closed o typed waited hwaited stopped reads _ hreads removed =>
    exact ⟨w.opening cfg path :: (requests typed ++ w.closing cfg :: requests reads), by simp⟩

/-! ### Behind the making of the window -/

section Behind

variable {before after : List (Exchange Exec.Answer)} {result : Except Error Exec.Output}

theorem singles_behind (hbefore : ∀ x ∈ before, Prepares x.1) :
    singles (before ++ ⟨.newFile, .ok path⟩ :: after) = .newFile :: singles after := by
  have hnil : singles before = [] := by
    refine singles_eq_nil fun r hr => ?_
    obtain ⟨x, hx, rfl⟩ := List.mem_map.1 hr
    exact (hbefore x hx).repeats
  rw [singles_append, hnil, List.nil_append, singles_cons rfl]

theorem opened_behind (hbefore : ∀ x ∈ before, Prepares x.1) :
    Opened cfg w path (before ++ ⟨.newFile, .ok path⟩ :: after) ↔ Opened cfg w path after := by
  constructor
  · rintro ⟨o, ho⟩
    rcases List.mem_append.1 ho with ho | ho
    · have hrep := (hbefore _ ho).repeats
      cases hrep
    rcases List.mem_cons.1 ho with ho | ho
    · cases ho
    · exact ⟨o, ho⟩
  · rintro ⟨o, ho⟩
    exact ⟨o, List.mem_append_right _ (List.mem_cons_of_mem _ ho)⟩

theorem precedes_behind {P Q : Exchange Exec.Answer → Prop} (hbefore : ∀ x ∈ before, Prepares x.1)
    (hprepares : ∀ x, Prepares x.1 → ¬ Q x) (hfile : ¬ Q ⟨.newFile, .ok path⟩)
    (h : Precedes P Q after) : Precedes P Q (before ++ ⟨.newFile, .ok path⟩ :: after) :=
  .append_left (fun x hx => hprepares x (hbefore x hx)) (.cons hfile h)

theorem Finished.nodup_singles (h : Finished cfg w argv acceptAny path after result) :
    (.newFile :: singles after).Nodup := by
  rcases h.asked_once with ⟨-, hafter⟩ | ⟨-, hafter⟩
  · simp [hafter]
  · simp [hafter, appendTo_ne_empty]

theorem Finished.pipes (h : Finished cfg w argv acceptAny path after result) {r : Exec.Request}
    (hr : r ∈ singles after) (hsub : subcommand? r = some "pipe-pane") :
    r = w.opening cfg path ∨ r = w.closing cfg := by
  have hnot : r ≠ .removeFile path := by
    rintro rfl
    cases hsub
  rcases h.asked_once with ⟨-, hafter⟩ | ⟨-, hafter⟩
  · rw [hafter] at hr
    exact Or.inl (by simpa [hnot] using hr)
  · rw [hafter] at hr
    simpa [hnot] using hr

theorem Finished.cleanup (hbefore : ∀ x ∈ before, Prepares x.1)
    (h : Finished cfg w argv acceptAny path after result) :
    Cleanup cfg w argv acceptAny path (before ++ ⟨.newFile, .ok path⟩ :: after) result := by
  have hsingles : singles (before ++ ⟨.newFile, .ok path⟩ :: after) = .newFile :: singles after :=
    singles_behind hbefore
  have honce : ∀ r ∈ singles after, repeats r = false →
      (requests (before ++ ⟨.newFile, .ok path⟩ :: after)).count r = 1 := by
    intro r hr hrep
    rw [← count_singles hrep, hsingles]
    exact List.nodup_iff_count_eq_one.1 h.nodup_singles r (List.mem_cons_of_mem _ hr)
  constructor
  case removed_once =>
    refine honce _ ?_ rfl
    rcases h.asked_once with ⟨-, hafter⟩ | ⟨-, hafter⟩ <;> simp [hafter]
  case removed_last =>
    obtain ⟨l, hl⟩ := h.removed_last
    have hrequests : requests (before ++ ⟨.newFile, .ok path⟩ :: after) =
        requests before ++ .newFile :: l ++ [.removeFile path] := by
      rw [requests, List.map_append, List.map_cons, List.append_assoc, List.cons_append, ← hl]
    rw [hrequests, List.getLast?_concat]
  case opened_once =>
    refine honce _ ?_ rfl
    rcases h.asked_once with ⟨-, hafter⟩ | ⟨-, hafter⟩ <;> simp [hafter]
  case closed_once =>
    intro hopen
    refine honce _ ?_ rfl
    rcases h.asked_once with ⟨hnot, -⟩ | ⟨-, hafter⟩
    · exact absurd ((opened_behind hbefore).1 hopen) hnot
    · simp [hafter]
  case closed_never =>
    intro hnot
    rw [← count_singles rfl, hsingles]
    rcases h.asked_once with ⟨-, hafter⟩ | ⟨hopen, -⟩
    · simp [hafter, List.count_eq_zero, (appendTo_ne_empty path).symm]
    · exact absurd ((opened_behind hbefore).2 hopen) hnot
  case pipes =>
    intro r hr hsub
    have hsingle : r ∈ singles (before ++ ⟨.newFile, .ok path⟩ :: after) :=
      List.mem_filter.2 ⟨hr, by rw [repeats_of_pipe hsub]; rfl⟩
    rw [hsingles] at hsingle
    rcases List.mem_cons.1 hsingle with rfl | hafter
    · cases hsub
    · exact h.pipes hafter hsub
  case closed_after =>
    refine precedes_behind hbefore (fun x hx hclosing => ?_) nofun h.closed_after
    have hrep := hx.repeats
    rw [hclosing] at hrep
    cases hrep
  case read_after =>
    refine precedes_behind hbefore ?_ ?_ h.read_after
    · rintro x hx ⟨p, hp⟩
      exact hx.ne_of_none rfl hp
    · rintro ⟨p, hp⟩
      cases hp
  case outcome => exact ⟨before, after, rfl, h⟩

end Behind

theorem cleanup_of_traces {result : Except Error Exec.Output}
    (h : Traces (w.run cfg argv acceptAny).run t (some result))
    (hfile : (⟨.newFile, .ok path⟩ : Exchange Exec.Answer) ∈ t) :
    Cleanup cfg w argv acceptAny path t result := by
  have hprepares : ∀ {t : List (Exchange Exec.Answer)},
      (∀ x ∈ t, Prepares x.1) → (⟨.newFile, .ok path⟩ : Exchange Exec.Answer) ∉ t := by
    intro t ht hmem
    exact (ht _ hmem).ne_of_none rfl rfl
  cases argv with
  | nil =>
    rw [run_nil] at h
    obtain ⟨rfl, -⟩ := Traces.of_throw h
    cases hfile
  | cons a argv =>
    rw [run_eq cfg w (List.cons_ne_nil a argv)] at h
    rcases Traces.of_seq h with ⟨hv, -⟩ | ⟨e, -, hready⟩ | ⟨before, rest, _, rfl, hready, hpiped⟩
    · cases hv
    · exact absurd hfile (hprepares (hready.within within_getReady))
    have hbefore := hready.within within_getReady
    rcases of_runPiped hpiped with ⟨a, rfl, hv | ⟨e, rfl, -⟩⟩ | ⟨p, into, hv, -⟩ |
      ⟨p, into, result', removed, rfl, hinto, hv | hv⟩
    · cases hv
    · rcases List.mem_append.1 hfile with hmem | hmem
      · exact absurd hmem (hprepares hbefore)
      · cases List.mem_singleton.1 hmem
    · cases hv
    · cases hv
    · cases hv
      have hfinished := finished_of_traces hinto removed
      have hp : path = p := by
        rcases List.mem_append.1 hfile with hmem | hmem
        · exact absurd hmem (hprepares hbefore)
        rcases List.mem_cons.1 hmem with hmem | hmem
        · cases hmem
          rfl
        · have hnodup := hfinished.nodup_singles
          have hsingle : Exec.Request.newFile ∈ singles (into ++ [⟨.removeFile p, removed⟩]) :=
            List.mem_filter.2 ⟨List.mem_map_of_mem hmem, rfl⟩
          exact absurd hsingle (List.nodup_cons.1 hnodup).1
      subst hp
      exact hfinished.cleanup hbefore

/-! ## The removal does not show in the result -/

/-- A request is no removal. -/
def Keeps (r : Exec.Request) : Prop := ∀ path, r ≠ .removeFile path

theorem within_runInto (cfg : Settings) (w : Window) (path : String) (argv : List String)
    (acceptAny : Bool) : Within Keeps (w.runInto cfg path argv acceptAny).run := by
  have hrun : ∀ args, Keeps (call cfg args) := fun args path => nofun
  refine Within.seq (Within.tmux cfg (hrun _)) fun _ => ?_
  refine Within.seq (Within.attempt ((within_typeAndAwait argv).mono ?_)) fun waited => ?_
  · rintro r (hsub | rfl) path
    · rintro rfl
      cases hsub
    · exact nofun
  refine Within.seq (Within.attempt (Within.tmux cfg (hrun _))) fun stopped => ?_
  refine (within_conclude waited stopped).mono ?_
  rintro r rfl p
  exact nofun

variable {σ : Type} {ex ex' : Executor Exec.Answer σ} {b : Bounds}

/-- The end of a run: whether it is broken off does not depend on what the removal is answered. -/
theorem run_removal_congr (hb : b.deadline = none ∨ ∀ r s, (ex' r s).took = (ex r s).took)
    (path : String) (result : Except Error Exec.Output) (c : Timed σ) :
    (Plan.run ex' b ((Action.ofAnswer (Plan.request (Exec.Request.removeFile path))).attempt >>=
        fun _ => Action.ofExcept result).run c).1 =
      (Plan.run ex b ((Action.ofAnswer (Plan.request (Exec.Request.removeFile path))).attempt >>=
        fun _ => Action.ofExcept result).run c).1 := by
  change (Plan.run ex' b (Plan.ask (Exec.Request.removeFile path) fun _ => Plan.done result) c).1 =
    (Plan.run ex b (Plan.ask (Exec.Request.removeFile path) fun _ => Plan.done result) c).1
  obtain ⟨s, now⟩ := c
  rcases hb with hdeadline | htook
  · simp only [Plan.run, put_of_deadline hdeadline]
  · obtain ⟨ok, now', hpass⟩ := exists_pass b (ex (.removeFile path) s).took now
    cases ok <;> simp only [Plan.run, put, htook, hpass]

/-- What a run comes to does not depend on how the removal of the file is answered. -/
theorem run_fst_congr (hex : ∀ r, Keeps r → ∀ s, ex' r s = ex r s)
    (hb : b.deadline = none ∨ ∀ r s, (ex' r s).took = (ex r s).took) (c : Timed σ) :
    (Plan.run ex' b (w.run cfg argv acceptAny).run c).1 =
      (Plan.run ex b (w.run cfg argv acceptAny).run c).1 := by
  cases argv with
  | nil => rfl
  | cons a argv =>
    have hready : Within Keeps (w.getReady cfg).run := by
      exact within_getReady.mono fun r hr path => hr.ne_of_none rfl
    rw [run_eq cfg w (List.cons_ne_nil a argv), run_seq, run_seq, run_congr hready hex]
    rcases Plan.run ex b (w.getReady cfg).run c with ⟨_ | _ | _, c⟩
    · rfl
    · rfl
    have hfile : Within Keeps (Action.ofAnswer (Plan.request Exec.Request.newFile)).run :=
      Within.ask nofun fun _ => .done _
    dsimp only
    unfold runPiped
    rw [run_seq, run_seq, run_congr hfile hex]
    rcases Plan.run ex b (Action.ofAnswer (Plan.request Exec.Request.newFile)).run c with
      ⟨_ | _ | path, c⟩
    · rfl
    · rfl
    have hinto := (within_runInto cfg w path (a :: argv) acceptAny).attempt
    dsimp only
    rw [run_seq, run_seq, run_congr hinto hex]
    rcases Plan.run ex b (w.runInto cfg path (a :: argv) acceptAny).attempt.run c with
      ⟨_ | _ | result, c⟩
    · rfl
    · rfl
    · exact run_removal_congr hb path result c

theorem trace_of_not_ready (c : Timed σ)
    (h : (Plan.run ex b (w.getReady cfg).run c).1 ≠ some (.ok ())) :
    ∀ x ∈ trace ex b (w.run cfg argv acceptAny).run c, Prepares x.1 := by
  cases argv with
  | nil =>
    intro x hx
    cases hx
  | cons a argv =>
    rw [run_eq cfg w (List.cons_ne_nil a argv), trace_seq_of_not_ok _ fun _ => h]
    exact (traces_run ex b _ c).within within_getReady

/-- Every run cleans up, whatever its executor answers. -/
theorem run_cleans_up {σ : Type} (ex : Executor Exec.Answer σ) (b : Bounds) (cfg : Settings)
    (w : Window) (argv : List String) (acceptAny : Bool) (c : Timed σ) :
    (∀ path result,
      (⟨.newFile, .ok path⟩ : Exchange Exec.Answer) ∈ trace ex b (w.run cfg argv acceptAny).run c →
      (Plan.run ex b (w.run cfg argv acceptAny).run c).1 = some result →
        Cleanup cfg w argv acceptAny path (trace ex b (w.run cfg argv acceptAny).run c) result) ∧
    (∀ ex' : Executor Exec.Answer σ, (∀ r, Keeps r → ∀ s, ex' r s = ex r s) →
      (b.deadline = none ∨ ∀ r s, (ex' r s).took = (ex r s).took) →
        (Plan.run ex' b (w.run cfg argv acceptAny).run c).1 =
          (Plan.run ex b (w.run cfg argv acceptAny).run c).1) ∧
    ((Plan.run ex b (w.getReady cfg).run c).1 ≠ some (.ok ()) →
      ∀ r ∈ requests (trace ex b (w.run cfg argv acceptAny).run c), r ≠ .newFile ∧
        subcommand? r ≠ some "pipe-pane" ∧ subcommand? r ≠ some "send-keys") := by
  refine ⟨fun path result hfile hresult => ?_, fun ex' hex hb => run_fst_congr hex hb c,
    fun hready r hr => ?_⟩
  · have htraces := traces_run ex b (w.run cfg argv acceptAny).run c
    rw [hresult] at htraces
    exact cleanup_of_traces htraces hfile
  · obtain ⟨x, hx, rfl⟩ := List.mem_map.1 hr
    have hprepares := trace_of_not_ready c hready x hx
    exact ⟨hprepares.ne_of_none rfl, hprepares.subcommand_ne (by decide),
      hprepares.subcommand_ne (by decide)⟩

/-- A run on a screen that shows an end marker and a prompt all the time, where the file cannot be
removed, and one on a screen that shows nothing. -/
theorem run_cleans_up_still :
    let w : Window := ⟨⟨"s", by decide⟩, "w", by decide⟩
    let cfg : Settings := { marker := "M", promptReady := ⟨.zero, .attempts 1⟩ }
    let busy := still "M 0\n$ \n" "e\r\nx\r\n\r\nM 0\r\n$ " (.error (.executionFailed "busy"))
    let free := still "M 0\n$ \n" "e\r\nx\r\n\r\nM 0\r\n$ " (.ok ())
    let blank := still "" "" (.ok ())
    let b : Bounds := { checks := 1 }
    let c : Timed Unit := ⟨(), .zero⟩
    Cleanup cfg w ["e"] false "/capture" (trace busy b (w.run cfg ["e"] false).run c)
        (.ok { stdout := [120, 10] }) ∧
      (Plan.run free b (w.run cfg ["e"] false).run c).1 =
        (Plan.run busy b (w.run cfg ["e"] false).run c).1 ∧
      ∀ r ∈ requests (trace blank b (w.run cfg ["e"] false).run c), r ≠ .newFile ∧
        subcommand? r ≠ some "pipe-pane" ∧ subcommand? r ≠ some "send-keys" := by
  intro w cfg busy free blank b c
  obtain ⟨hcleanup, hremoval, -⟩ := run_cleans_up busy b cfg w ["e"] false c
  obtain ⟨-, -, hblank⟩ := run_cleans_up blank b cfg w ["e"] false c
  refine ⟨hcleanup _ _ (by decide +kernel) (by decide +kernel), hremoval free ?_ (Or.inl rfl),
    hblank (by decide +kernel)⟩
  rintro (i | _ | path | path) hr s
  · rfl
  · rfl
  · rfl
  · exact absurd rfl (hr path)

end PaneRunner.Tmux.Window
