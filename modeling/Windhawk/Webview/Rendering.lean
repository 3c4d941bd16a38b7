import Windhawk.Webview.IpcMessages

/-! How a mods browser handles the extension host's replies. Its map lives in `useState`.
Each render makes new reply callbacks with `useCallback`, and they close over the map that
render read. A reply is handled by the callback of the latest render. A setter call
replaces the state with a map computed from the captured one, and the next render reads
the new state. -/

set_option autoImplicit false

namespace Windhawk.Webview

/-- The map in a component's state and the map its latest render captured; `none` is
`null`. -/
structure View (σ : Type) where
  state : Option σ
  rendered : Option σ
  deriving DecidableEq

def View.init {σ : Type} (map : σ) : View σ := ⟨some map, some map⟩

inductive Event where
  | reply (reply : Reply)
  | render

/-- A reply callback: what it computes from the map its render captured, `none` when it
does not call the setter. Every callback first checks that the captured map is not
`null`. -/
abbrev Handler (σ : Type) := Reply → σ → Except TypeError (Option σ)

section Run

variable {σ : Type} (handle : Handler σ)

def deliver (view : View σ) : Event → Except TypeError (View σ)
  | .render => .ok { view with rendered := view.state }
  | .reply reply =>
      match view.rendered with
      | none => .ok view
      | some captured =>
          match handle reply captured with
          | .error error => .error error
          | .ok none => .ok view
          | .ok (some updated) => .ok { view with state := some updated }

def run : View σ → List Event → Except TypeError (View σ)
  | view, [] => .ok view
  | view, event :: rest =>
      match deliver handle view event with
      | .error error => .error error
      | .ok view => run view rest

/-- The update a reply makes to the map it is given. A reply whose callback throws on that
map, which is one addressed to a mod the map lacks, leaves it as it is. -/
def update (reply : Reply) (map : σ) : σ :=
  match handle reply map with
  | .ok (some updated) => updated
  | _ => map

def handleAll : σ → List Reply → Except TypeError σ
  | map, [] => .ok map
  | map, reply :: rest =>
      match handle reply map with
      | .error error => .error error
      | .ok updated => handleAll (updated.getD map) rest

def renderEach : List Reply → List Event
  | [] => []
  | reply :: rest => .reply reply :: .render :: renderEach rest

/-- With a render after every reply, each callback reads the map the previous one left. -/
theorem run_renderEach (map : σ) (replies : List Reply) :
    run handle (View.init map) (renderEach replies) =
      (handleAll handle map replies).map View.init := by
  induction replies generalizing map with
  | nil => rfl
  | cons reply rest ih =>
      simp only [renderEach, run, deliver, View.init, handleAll]
      cases handle reply map with
      | error error => rfl
      | ok updated =>
          cases updated with
          | none => exact ih map
          | some updated => exact ih updated

theorem handleAll_eq_foldl_update {map final : σ} {replies : List Reply}
    (handled : handleAll handle map replies = .ok final) :
    final = replies.foldl (fun map reply => update handle reply map) map := by
  induction replies generalizing map with
  | nil => cases handled; rfl
  | cons reply rest ih =>
      simp only [handleAll] at handled
      rw [List.foldl_cons]
      cases replied : handle reply map with
      | error error => rw [replied] at handled; cases handled
      | ok updated =>
          rw [replied] at handled
          cases updated with
          | none => simpa [update, replied] using ih handled
          | some updated => simpa [update, replied] using ih handled

theorem run_renderEach_ok {map : σ} {replies : List Reply} {final : View σ}
    (ran : run handle (View.init map) (renderEach replies) = .ok final) :
    final = View.init (replies.foldl (fun map reply => update handle reply map) map) := by
  rw [run_renderEach] at ran
  cases handled : handleAll handle map replies with
  | error error => rw [handled] at ran; cases ran
  | ok last =>
      rw [handled] at ran
      cases ran
      rw [handleAll_eq_foldl_update handle handled]

/-! ## Runs that keep an invariant -/

section Invariant

variable (Holds : σ → Prop) (Safe : Reply → Prop)

def View.Keeps (view : View σ) : Prop :=
  (∀ map ∈ view.state, Holds map) ∧ ∀ map ∈ view.rendered, Holds map

theorem deliver_keeps
    (keeps : ∀ reply captured updated, Holds captured →
      handle reply captured = .ok (some updated) → Holds updated)
    (total : ∀ reply captured, Safe reply → Holds captured →
      ∃ result, handle reply captured = .ok result)
    {view : View σ} (kept : view.Keeps Holds) {event : Event}
    (safe : ∀ reply, event = .reply reply → Safe reply) :
    ∃ next, deliver handle view event = .ok next ∧ next.Keeps Holds := by
  cases event with
  | render => exact ⟨_, rfl, kept.1, kept.1⟩
  | reply reply =>
      cases rendered : view.rendered with
      | none => exact ⟨view, by simp only [deliver, rendered], kept⟩
      | some captured =>
          have holds := kept.2 captured rendered
          obtain ⟨result, handled⟩ := total reply captured (safe reply rfl) holds
          cases result with
          | none => exact ⟨view, by simp only [deliver, rendered, handled], kept⟩
          | some updated =>
              refine ⟨{ view with state := some updated },
                by simp only [deliver, rendered, handled], fun map found => ?_, kept.2⟩
              cases found
              exact keeps reply captured updated holds handled

/-- Over any interleaving of replies and renders, no callback throws and both maps keep
`Holds`. -/
theorem run_keeps
    (keeps : ∀ reply captured updated, Holds captured →
      handle reply captured = .ok (some updated) → Holds updated)
    (total : ∀ reply captured, Safe reply → Holds captured →
      ∃ result, handle reply captured = .ok result) :
    ∀ (events : List Event) (view : View σ), view.Keeps Holds →
      (∀ reply, Event.reply reply ∈ events → Safe reply) →
        ∃ final, run handle view events = .ok final ∧ final.Keeps Holds
  | [], view, kept, _ => ⟨view, rfl, kept⟩
  | event :: rest, view, kept, safe => by
      obtain ⟨next, delivered, nextKept⟩ := deliver_keeps handle Holds Safe keeps total kept
        fun reply same => safe reply (same ▸ List.mem_cons_self _ _)
      simp only [run, delivered]
      exact run_keeps keeps total rest next nextKept
        fun reply member => safe reply (List.mem_cons_of_mem _ member)

end Invariant

end Run

end Windhawk.Webview
