import PaneRunner.Proofs.Text.Search
import PaneRunner.Simulation.Server
import PaneRunner.Tmux.Session

/-
  Windows and their addresses. `Server.onWindow` changes what `Server.window?` finds at the same
  address (`window?_onWindow`) and nothing but sessions (`onWindow_eq`), so changes of one window
  one after another are one change (`onWindow_onWindow`).
-/
namespace PaneRunner.Simulation.Server

open Text

/-! ## The first element that a predicate accepts -/

section ModifyFirst

variable {α β : Type} {p : α → Bool} {f g : α → α}

theorem find?_modifyFirst (hf : ∀ a, p (f a) = p a) (as : List α) :
    (modifyFirst p f as).find? p = (as.find? p).map f := by
  induction as with
  | nil => rfl
  | cons a as ih =>
    by_cases ha : p a = true
    · rw [modifyFirst, if_pos ha, List.find?_cons_of_pos ((hf a).trans ha),
        List.find?_cons_of_pos ha, Option.map_some]
    · rw [modifyFirst, if_neg ha, List.find?_cons_of_neg ha, List.find?_cons_of_neg ha, ih]

/-- What the changed element is not is found as before. -/
theorem find?_modifyFirst_of_not {q : α → Bool} (hq : ∀ a, p a = true → q a = false)
    (hf : ∀ a, p a = true → q (f a) = false) (as : List α) :
    (modifyFirst p f as).find? q = as.find? q := by
  induction as with
  | nil => rfl
  | cons a as ih =>
    by_cases ha : p a = true
    · rw [modifyFirst, if_pos ha, List.find?_cons_of_neg (by simp [hf a ha]),
        List.find?_cons_of_neg (by simp [hq a ha])]
    · rw [modifyFirst, if_neg ha]
      cases hqa : q a with
      | true => rw [List.find?_cons_of_pos hqa, List.find?_cons_of_pos hqa]
      | false =>
        rw [List.find?_cons_of_neg (by simp [hqa]), List.find?_cons_of_neg (by simp [hqa]), ih]

/-- A change of what has one name does not matter where another name is looked for. -/
theorem find?_modifyFirst_of_ne {name : α → String} (hf : ∀ a, name (f a) = name a) {m n : String}
    (hne : n ≠ m) (as : List α) :
    (modifyFirst (fun a => name a == m) f as).find? (fun a => name a == n) =
      as.find? fun a => name a == n := by
  refine find?_modifyFirst_of_not (fun a ha => ?_) (fun a ha => ?_) as
  · rw [beq_iff_eq.1 ha]
    exact beq_false_of_ne (Ne.symm hne)
  · rw [hf, beq_iff_eq.1 ha]
    exact beq_false_of_ne (Ne.symm hne)

theorem modifyFirst_modifyFirst (hf : ∀ a, p (f a) = p a) (as : List α) :
    modifyFirst p g (modifyFirst p f as) = modifyFirst p (fun a => g (f a)) as := by
  induction as with
  | nil => rfl
  | cons a as ih =>
    by_cases ha : p a = true
    · rw [modifyFirst, if_pos ha, modifyFirst, if_pos ((hf a).trans ha), modifyFirst, if_pos ha]
    · rw [modifyFirst, if_neg ha, modifyFirst, if_neg ha, ih, modifyFirst, if_neg ha]

theorem modifyFirst_congr {as : List α} (h : ∀ a, as.find? p = some a → f a = g a) :
    modifyFirst p f as = modifyFirst p g as := by
  induction as with
  | nil => rfl
  | cons a as ih =>
    by_cases ha : p a = true
    · rw [modifyFirst, if_pos ha, modifyFirst, if_pos ha, h a (List.find?_cons_of_pos ha)]
    · rw [List.find?_cons_of_neg ha] at h
      rw [modifyFirst, if_neg ha, modifyFirst, if_neg ha, ih h]

theorem modifyFirst_id (as : List α) : modifyFirst p id as = as := by
  induction as with
  | nil => rfl
  | cons a as ih =>
    rw [modifyFirst, ih]
    exact ite_self _

/-- What a change keeps is kept all along the list. -/
theorem map_modifyFirst_of_find? {β : Type} {g : α → β} {as : List α}
    (hg : ∀ a, as.find? p = some a → g (f a) = g a) : (modifyFirst p f as).map g = as.map g := by
  induction as with
  | nil => rfl
  | cons a as ih =>
    by_cases ha : p a = true
    · rw [modifyFirst, if_pos ha, List.map_cons, List.map_cons, hg a (List.find?_cons_of_pos ha)]
    · rw [List.find?_cons_of_neg ha] at hg
      rw [modifyFirst, if_neg ha, List.map_cons, List.map_cons, ih hg]

theorem map_modifyFirst {β : Type} {g : α → β} (hg : ∀ a, g (f a) = g a) (as : List α) :
    (modifyFirst p f as).map g = as.map g :=
  map_modifyFirst_of_find? fun a _ => hg a

/-- A member of the changed list is an old one or what the found one became. -/
theorem mem_modifyFirst_of_find? {a : α} {as : List α} (h : a ∈ modifyFirst p f as) :
    a ∈ as ∨ ∃ b, as.find? p = some b ∧ a = f b := by
  induction as with
  | nil => exact Or.inl h
  | cons b as ih =>
    by_cases hb : p b = true
    · rw [modifyFirst, if_pos hb] at h
      rcases List.mem_cons.1 h with rfl | h
      · exact Or.inr ⟨b, List.find?_cons_of_pos hb, rfl⟩
      · exact Or.inl (List.mem_cons_of_mem b h)
    · rw [modifyFirst, if_neg hb] at h
      rcases List.mem_cons.1 h with rfl | h
      · exact Or.inl List.mem_cons_self
      · rw [List.find?_cons_of_neg hb]
        exact (ih h).imp_left (List.mem_cons_of_mem b)

theorem mem_modifyFirst {a : α} {as : List α} (h : a ∈ modifyFirst p f as) :
    a ∈ as ∨ ∃ b ∈ as, a = f b := by
  rcases mem_modifyFirst_of_find? h with h | ⟨b, hb, rfl⟩
  · exact Or.inl h
  · exact Or.inr ⟨b, List.mem_of_find?_eq_some hb, rfl⟩

theorem modifyFirst_ne_nil {as : List α} (h : as ≠ []) : modifyFirst p f as ≠ [] := by
  cases as with
  | nil => exact absurd rfl h
  | cons a as =>
    unfold modifyFirst
    split <;> exact List.cons_ne_nil _ _

end ModifyFirst

/-! ## Addresses -/

theorem parseAddress?_colon {s : String} (hs : ':' ∉ s.toList) (w : String) :
    parseAddress? (s ++ ":" ++ w) = some (s, (stripStart? w "=").getD w) := by
  have hsplit : splitOnce? (s ++ ":" ++ w) ":" = some (s, w) := by
    refine splitOnce?_of_cutAt? ?_
    have h := cutAt?_singleton hs w.toList
    simpa using h
  rw [parseAddress?, hsplit]
  rfl

/-- A target names its session and its window. -/
theorem parseAddress?_target (w : Tmux.Window) (hs : ':' ∉ w.session.name.toList) :
    parseAddress? w.target = some (w.session.name, w.name) := by
  have h := parseAddress?_colon hs ("=" ++ w.name)
  rw [stripStart?_append, Option.getD_some] at h
  rw [← h, Tmux.Window.target]
  congr 1
  simp [← String.toList_inj]

/-! ## Changing a window -/

variable {server : Server} {address : String} {f g : Window → Window}

theorem window?_of_parse {s w : String} (h : parseAddress? address = some (s, w)) :
    server.window? address =
      (server.session? s).bind fun x => x.windows.find? fun y => y.name == w := by
  rw [window?, h]
  rfl

/-- A session with its first window of a name changed. -/
def inWindow (w : String) (f : Window → Window) (x : Session) : Session :=
  { x with windows := modifyFirst (fun y => y.name == w) f x.windows }

theorem inWindow_inWindow (hf : ∀ x, (f x).name = x.name) (w : String) (x : Session) :
    inWindow w g (inWindow w f x) = inWindow w (fun y => g (f y)) x := by
  rw [inWindow, inWindow, inWindow, modifyFirst_modifyFirst fun y => by rw [hf]]

theorem onWindow_of_parse {s w : String} (h : parseAddress? address = some (s, w)) :
    server.onWindow address f =
      { server with
        sessions := modifyFirst (fun x => x.name == s) (inWindow w f) server.sessions } := by
  rw [onWindow, h]
  rfl

/-- A change of a window is a change of sessions. -/
theorem onWindow_eq (server : Server) (address : String) (f : Window → Window) :
    server.onWindow address f =
      { server with sessions := (server.onWindow address f).sessions } := by
  unfold onWindow
  split <;> rfl

theorem window?_congr {server' : Server} (h : server.sessions = server'.sessions) :
    server.window? address = server'.window? address := by
  unfold window? session?
  rw [h]

theorem sessions_onWindow_congr {server' : Server} (h : server.sessions = server'.sessions) :
    (server.onWindow address f).sessions = (server'.onWindow address f).sessions := by
  unfold onWindow onSession
  rw [h]
  split
  · rfl
  · exact h

/-- A changed session is found under its name. -/
theorem session?_onSession {name : String} {f : Session → Session}
    (hf : ∀ s, (f s).name = s.name) :
    (server.onSession name f).session? name = (server.session? name).map f :=
  find?_modifyFirst (fun s => by rw [hf]) server.sessions

/-- Under other names the sessions are what they were. -/
theorem session?_onSession_of_ne {name name' : String} {f : Session → Session} (hne : name' ≠ name)
    (hf : ∀ s, (f s).name = s.name) :
    (server.onSession name f).session? name' = server.session? name' :=
  find?_modifyFirst_of_ne hf hne server.sessions

/-- A changed window is found where it was. -/
theorem window?_onWindow (hf : ∀ x, (f x).name = x.name) :
    (server.onWindow address f).window? address = (server.window? address).map f := by
  cases hp : parseAddress? address with
  | none => simp [window?, hp]
  | some sw =>
    obtain ⟨s, w⟩ := sw
    have hsession : (server.onSession s (inWindow w f)).session? s =
        (server.session? s).map (inWindow w f) := session?_onSession fun _ => rfl
    rw [onSession] at hsession
    rw [onWindow_of_parse hp, window?_of_parse hp, window?_of_parse hp, hsession]
    cases server.session? s with
    | none => rfl
    | some x => exact find?_modifyFirst (fun y => by rw [hf]) x.windows

/-- Another window is what it was. -/
theorem window?_onWindow_of_ne {w v : Tmux.Window} (hw : ':' ∉ w.session.name.toList)
    (hv : ':' ∉ v.session.name.toList) (hne : v ≠ w) (hf : ∀ x, (f x).name = x.name) :
    (server.onWindow w.target f).window? v.target = server.window? v.target := by
  have hchanged : server.onWindow w.target f = server.onSession w.session.name (inWindow w.name f) :=
    onWindow_of_parse (parseAddress?_target w hw)
  rw [window?_of_parse (parseAddress?_target v hv), window?_of_parse (parseAddress?_target v hv),
    hchanged]
  by_cases hsession : v.session.name = w.session.name
  · have hname : v.name ≠ w.name := by
      intro hname
      obtain ⟨⟨vs, _⟩, vn, _⟩ := v
      obtain ⟨⟨ws, _⟩, wn, _⟩ := w
      cases hsession
      cases hname
      exact hne rfl
    rw [hsession, session?_onSession (f := inWindow w.name f) fun _ => rfl]
    cases server.session? w.session.name with
    | none => rfl
    | some x => exact find?_modifyFirst_of_ne hf hname x.windows
  · rw [session?_onSession_of_ne (f := inWindow w.name f) hsession fun _ => rfl]

theorem onWindow_onWindow (hf : ∀ x, (f x).name = x.name) :
    (server.onWindow address f).onWindow address g = server.onWindow address fun x => g (f x) := by
  cases hp : parseAddress? address with
  | none => simp only [onWindow, hp]
  | some sw =>
    obtain ⟨s, w⟩ := sw
    rw [onWindow_of_parse hp, onWindow_of_parse hp, onWindow_of_parse hp]
    dsimp only
    rw [modifyFirst_modifyFirst (f := inWindow w f) (p := fun x => x.name == s) fun _ => rfl,
      funext (inWindow_inWindow hf w)]

/-- Only what is made of the window that is found matters. -/
theorem onWindow_congr (h : ∀ x, server.window? address = some x → f x = g x) :
    server.onWindow address f = server.onWindow address g := by
  cases hp : parseAddress? address with
  | none => simp only [onWindow, hp]
  | some sw =>
    obtain ⟨s, w⟩ := sw
    rw [window?_of_parse hp] at h
    have hsessions : ∀ x, server.sessions.find? (fun y => y.name == s) = some x →
        inWindow w f x = inWindow w g x := by
      intro x hx
      have hwindows : ∀ y, x.windows.find? (fun z => z.name == w) = some y → f y = g y :=
        fun y hy => h y (by rw [session?, hx]; exact hy)
      rw [inWindow, modifyFirst_congr hwindows, inWindow]
    rw [onWindow_of_parse hp, modifyFirst_congr hsessions, onWindow_of_parse hp]

/-- A change that leaves the window as it is changes nothing. -/
theorem onWindow_self (h : ∀ x, server.window? address = some x → f x = x) :
    server.onWindow address f = server := by
  rw [onWindow_congr (g := id) h]
  cases hp : parseAddress? address with
  | none => simp only [onWindow, hp]
  | some sw =>
    obtain ⟨s, w⟩ := sw
    have hsame : inWindow w id = id := by
      funext x
      rw [inWindow, modifyFirst_id]
      rfl
    rw [onWindow_of_parse hp, hsame, modifyFirst_id]

end PaneRunner.Simulation.Server
