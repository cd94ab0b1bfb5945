import Conformance.Proofs.Loader.Load
import Mathlib.Logic.Function.Basic

/-! # Loaders over a whole run

Files come and go while several loaders read them. What a load gives depends on the present files
and, for a loader that keeps values, on the history: on the earliest load of the same path that
succeeded since the loader was last cleared. The cache of a loader never disagrees with that
history (`Faithful`), because one event extends both in the same way.
-/

namespace Conformance.Session

open Files (System Tree Path)

/-- What may happen. Files are written and deleted at names below the top; writing at no names
replaces the whole tree. -/
inductive Event
  | write (names : List String) (tree : Tree)
  | delete (names : List String)
  | load (loader : Nat) (path : String)
  | clear (loader : Nat)

/-- What a history says of an event. -/
inductive Entry
  | changed
  | loaded (loader : Nat) (path : Path) (result : Except Fault Value)
  | cleared (loader : Nat)

/-- The files, the loaders, and the history with the latest entry first. -/
structure World where
  files : System
  loaders : Nat → Loader
  history : List Entry

def change (files : System) : Event → System
  | .write names tree => { files with top := files.top.put names tree }
  | .delete names => { files with top := files.top.remove names }
  | .load _ _ | .clear _ => files

namespace World

def start (readers : Readers) (files : System) (cacheEnabled : Bool) (keeps : Nat → Value) :
    World :=
  ⟨files, fun loader => .ofReaders readers (keeps loader) cacheEnabled, []⟩

def answer (world : World) (loader : Nat) (path : String) : Except Fault Value :=
  ((world.loaders loader).load world.files (.ofText path)).1.result

def step (world : World) (event : Event) : World :=
  match event with
  | .write _ _ | .delete _ =>
    { world with files := change world.files event, history := .changed :: world.history }
  | .load loader path =>
    { world with
      loaders := Function.update world.loaders loader
        ((world.loaders loader).load world.files (.ofText path)).2
      history := .loaded loader (.ofText path) (world.answer loader path) :: world.history }
  | .clear loader =>
    { world with
      loaders := Function.update world.loaders loader (world.loaders loader).clear
      history := .cleared loader :: world.history }

def run (world : World) (events : List Event) : World := events.foldl step world

end World

namespace Entry

def clears (loader : Nat) : Entry → Bool
  | .cleared other => other == loader
  | _ => false

/-- The value that an entry says a loader has read from a path. -/
def value? (loader : Nat) (path : Path) : Entry → Option Value
  | .loaded other read result =>
    if other = loader ∧ read = path then result.toOption else none
  | _ => none

end Entry

/-- What the earliest successful load of a path gave since the loader was last cleared. -/
def earliest (loader : Nat) (path : Path) (history : List Entry) : Option Value :=
  (history.takeWhile fun entry => !entry.clears loader).reverse.findSome? (·.value? loader path)

theorem earliest_of_clears {loader : Nat} {entry : Entry} (h : entry.clears loader = true)
    (path : Path) (history : List Entry) : earliest loader path (entry :: history) = none := by
  simp [earliest, h]

theorem earliest_of_not_clears {loader : Nat} {entry : Entry} (h : entry.clears loader = false)
    (path : Path) (history : List Entry) :
    earliest loader path (entry :: history) =
      (earliest loader path history).or (entry.value? loader path) := by
  simp [earliest, h, List.findSome?_append]

theorem earliest_of_value?_eq_none {loader : Nat} {entry : Entry}
    (h : entry.clears loader = false) {path : Path} (hvalue : entry.value? loader path = none)
    (history : List Entry) :
    earliest loader path (entry :: history) = earliest loader path history := by
  rw [earliest_of_not_clears h, hvalue, Option.or_none]

/-! ## The invariant -/

/-- The caches hold what the history says, and the loaders still read and keep values as they were
told. -/
structure Faithful (readers : Readers) (cacheEnabled : Bool) (keeps : Nat → Value)
    (world : World) : Prop where
  readers_eq : ∀ loader, (world.loaders loader).readers = readers
  keeps_eq : ∀ loader,
    (world.loaders loader).keeps = (Loader.ofReaders readers (keeps loader) cacheEnabled).keeps
  find?_eq : ∀ loader path, (world.loaders loader).keeps.truthy = true →
    (world.loaders loader).find? path = earliest loader path world.history

variable {readers : Readers} {cacheEnabled : Bool} {keeps : Nat → Value}

theorem faithful_start (files : System) :
    Faithful readers cacheEnabled keeps (.start readers files cacheEnabled keeps) where
  readers_eq _ := rfl
  keeps_eq _ := rfl
  find?_eq loader path _ :=
    Loader.find?_clear (.ofReaders readers (keeps loader) cacheEnabled) path

theorem Faithful.change {world : World} (h : Faithful readers cacheEnabled keeps world)
    (files : System) :
    Faithful readers cacheEnabled keeps ⟨files, world.loaders, .changed :: world.history⟩ where
  readers_eq := h.readers_eq
  keeps_eq := h.keeps_eq
  find?_eq loader path hkeeps := by
    rw [earliest_of_value?_eq_none rfl rfl]
    exact h.find?_eq loader path hkeeps

theorem Faithful.clear {world : World} (h : Faithful readers cacheEnabled keeps world)
    (cleared : Nat) : Faithful readers cacheEnabled keeps (world.step (.clear cleared)) where
  readers_eq loader := by
    by_cases hloader : loader = cleared
    · subst hloader
      simpa [World.step, Loader.clear] using h.readers_eq loader
    · simpa [World.step, hloader] using h.readers_eq loader
  keeps_eq loader := by
    by_cases hloader : loader = cleared
    · subst hloader
      simpa [World.step, Loader.clear] using h.keeps_eq loader
    · simpa [World.step, hloader] using h.keeps_eq loader
  find?_eq loader path hkeeps := by
    by_cases hloader : loader = cleared
    · subst hloader
      rw [World.step, earliest_of_clears (by simp [Entry.clears])]
      simpa using Loader.find?_clear _ path
    · simp only [World.step, Function.update_of_ne hloader] at hkeeps ⊢
      rw [earliest_of_value?_eq_none (by simpa [Entry.clears] using Ne.symm hloader) rfl]
      exact h.find?_eq loader path hkeeps

/-- A load adds to the cache of its loader and to the history the same value of the same path. -/
theorem Faithful.load {world : World} (h : Faithful readers cacheEnabled keeps world) (used : Nat)
    (text : String) : Faithful readers cacheEnabled keeps (world.step (.load used text)) where
  readers_eq loader := by
    by_cases hloader : loader = used
    · subst hloader
      simpa [World.step, Loader.readers_load] using h.readers_eq loader
    · simpa [World.step, hloader] using h.readers_eq loader
  keeps_eq loader := by
    by_cases hloader : loader = used
    · subst hloader
      simpa [World.step, Loader.keeps_load] using h.keeps_eq loader
    · simpa [World.step, hloader] using h.keeps_eq loader
  find?_eq loader path hkeeps := by
    by_cases hloader : loader = used
    · subst hloader
      simp only [World.step, Function.update_self, Loader.keeps_load] at hkeeps ⊢
      rw [Loader.find?_load hkeeps, earliest_of_not_clears rfl, h.find?_eq loader path hkeeps]
      simp [Entry.value?, World.answer]
    · simp only [World.step, Function.update_of_ne hloader] at hkeeps ⊢
      rw [earliest_of_value?_eq_none rfl (by simp [Entry.value?, Ne.symm hloader])]
      exact h.find?_eq loader path hkeeps

theorem Faithful.step {world : World} (h : Faithful readers cacheEnabled keeps world) (event : Event) :
    Faithful readers cacheEnabled keeps (world.step event) := by
  cases event with
  | write names tree => exact h.change _
  | delete names => exact h.change _
  | load loader path => exact h.load loader path
  | clear loader => exact h.clear loader

theorem Faithful.run {world : World} (h : Faithful readers cacheEnabled keeps world)
    (events : List Event) : Faithful readers cacheEnabled keeps (world.run events) := by
  induction events generalizing world with
  | nil => exact h
  | cons event events ih => exact ih (h.step event)

/-- What the history says of a path, for a loader that keeps values. -/
def remembered (keeps : Bool) (loader : Nat) (path : Path) (history : List Entry) :
    Option Value :=
  if keeps then earliest loader path history else none

theorem Faithful.answer_eq {world : World} (h : Faithful readers cacheEnabled keeps world)
    (loader : Nat) (text : String) :
    world.answer loader text =
      Loader.expected readers world.files
        (remembered (Loader.ofReaders readers (keeps loader) cacheEnabled).keeps.truthy loader
          (.ofText text) world.history)
        (.ofText text) := by
  rw [World.answer, Loader.result_load, h.readers_eq, ← h.keeps_eq]
  cases hkeeps : (world.loaders loader).keeps.truthy with
  | true => rw [h.find?_eq loader _ hkeeps, remembered, if_pos rfl]
  | false => rw [Loader.find?_of_not_keeps hkeeps, remembered, if_neg (by simp)]

/-! ## What a run leaves -/

theorem files_step (world : World) (event : Event) :
    (world.step event).files = change world.files event := by
  cases event <;> rfl

theorem files_run (world : World) (events : List Event) :
    (world.run events).files = events.foldl change world.files := by
  induction events generalizing world with
  | nil => rfl
  | cons event events ih =>
      rw [List.foldl_cons, ← files_step]
      exact ih (world.step event)

/-- Only clearing the loader makes a remembered value forgotten or another. -/
theorem earliest_step {world : World} {event : Event} {loader : Nat} (h : event ≠ .clear loader)
    {path : Path} {value : Value} (hvalue : earliest loader path world.history = some value) :
    earliest loader path (world.step event).history = some value := by
  cases event with
  | clear other =>
      have hother : other ≠ loader := fun heq => h (heq ▸ rfl)
      rw [World.step, earliest_of_not_clears (by simpa [Entry.clears] using hother), hvalue,
        Option.some_or]
  | write names tree => rw [World.step, earliest_of_not_clears rfl, hvalue, Option.some_or]
  | delete names => rw [World.step, earliest_of_not_clears rfl, hvalue, Option.some_or]
  | load other text => rw [World.step, earliest_of_not_clears rfl, hvalue, Option.some_or]

theorem earliest_run {world : World} {events : List Event} {loader : Nat}
    (h : .clear loader ∉ events) {path : Path} {value : Value}
    (hvalue : earliest loader path world.history = some value) :
    earliest loader path (world.run events).history = some value := by
  induction events generalizing world with
  | nil => exact hvalue
  | cons event events ih =>
      have hevent : event ≠ .clear loader := fun heq => h (heq ▸ List.mem_cons_self)
      exact ih (fun hmem => h (List.mem_cons_of_mem event hmem)) (earliest_step hevent hvalue)

/-- After any run a load looks at the present files first. Where they hold a file, it gives the
value that a loader that keeps values has first read from the path since it was cleared, else what
the file now says. No event but the clearing of that loader changes such a value afterwards. -/
theorem answer_run (readers : Readers) (files : System) (cacheEnabled : Bool)
    (keeps : Nat → Value) (events : List Event) (loader : Nat) (text : String) :
    let world := (World.start readers files cacheEnabled keeps).run events
    let present := events.foldl change files
    let known := remembered (Loader.ofReaders readers (keeps loader) cacheEnabled).keeps.truthy
      loader (.ofText text) world.history
    world.answer loader text = Loader.expected readers present known (.ofText text) ∧
      ∀ more value, .clear loader ∉ more → known = some value →
        (world.run more).answer loader text =
          Loader.expected readers (more.foldl change present) (some value) (.ofText text) := by
  intro world present known
  have hfaithful : Faithful readers cacheEnabled keeps world :=
    (faithful_start files).run events
  have hfiles : world.files = present := files_run _ events
  refine ⟨?_, ?_⟩
  · rw [hfaithful.answer_eq, hfiles]
  · intro more value hmore hknown
    have hlater : remembered (Loader.ofReaders readers (keeps loader) cacheEnabled).keeps.truthy
        loader (.ofText text) (world.run more).history = some value := by
      unfold known remembered at hknown
      split at hknown
      · next hkeeps => rw [remembered, if_pos hkeeps, earliest_run hmore hknown]
      · cases hknown
    rw [(hfaithful.run more).answer_eq, hlater, files_run, hfiles]

/-- A document that says `1` where it is first read. -/
def first : System := ⟨.directory .full [("a.json", .file [49])], []⟩

/-- The document is overwritten, read by a second loader, deleted and missed, and written anew. -/
def rewriting : List Event :=
  [.write ["a.json"] (.file [50]), .load 1 "./a.json", .delete ["a.json"],
    .load 0 "a.json", .write ["a.json"] (.file [51])]

/-- The first loader still gives what it read first. -/
theorem answer_run_rewriting :
    .clear 0 ∉ rewriting ∧
      remembered true 0 (.ofText ".//a.json")
          ((World.start .standard first true fun _ => .null).run [.load 0 "a.json"]).history =
        some (.int 1) ∧
      (((World.start .standard first true fun _ => .null).run [.load 0 "a.json"]).run
        rewriting).answer 0 ".//a.json" = .ok (.int 1) := by
  have hclear : .clear 0 ∉ rewriting := by simp [rewriting]
  have hknown : remembered true 0 (.ofText ".//a.json")
      ((World.start .standard first true fun _ => .null).run [.load 0 "a.json"]).history =
        some (.int 1) := rfl
  refine ⟨hclear, hknown, ?_⟩
  rw [(answer_run .standard first true (fun _ => .null) [.load 0 "a.json"] 0 ".//a.json").2
    rewriting (.int 1) hclear hknown]
  rfl

end Conformance.Session
