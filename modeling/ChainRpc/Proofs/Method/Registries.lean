import ChainRpc.Proofs.Checked
import ChainRpc.Proofs.Method.Chronicles
import Mathlib.Logic.Function.Basic

/-!
# What registries remember

A ledger has a chronicle for each place. What a shelf of registries answers can be told from the ledger
alone: each registry is a map in the order of first registration, and none sees what is done to another.
-/

namespace ChainRpc

namespace Shelf

/-! ### Separate dictionaries -/

/-- Each handle has a dictionary, and no two handles have the same. -/
structure IsSeparate (shelf : Shelf) : Prop where
  held : ∀ {place handle}, shelf.handles.get? place = some handle →
    handle.address < shelf.dictionaries.length
  apart : ∀ {place other handle handle'}, shelf.handles.get? place = some handle →
    shelf.handles.get? other = some handle' → handle.address = handle'.address → place = other

variable {shelf : Shelf} {place other : Text} {holding : Holding}

lemma IsSeparate.install (hs : shelf.IsSeparate) (place : Text) (holding : Holding) :
    (shelf.install place holding).IsSeparate := by
  -- The new dictionary has the first address that no handle has had before.
  have hget : ∀ {p handle}, (shelf.install place holding).handles.get? p = some handle →
      p = place ∧ handle.address = shelf.dictionaries.length ∨
        p ≠ place ∧ shelf.handles.get? p = some handle := by
    intro p handle h
    by_cases hp : p = place
    · subst hp
      rw [Shelf.install, Entries.get?_put_self] at h
      cases h
      exact .inl ⟨rfl, rfl⟩
    · rw [Shelf.install, Entries.get?_put_of_ne hp] at h
      exact .inr ⟨hp, h⟩
  constructor
  · intro p handle h
    rw [Shelf.install, List.length_append]
    rcases hget h with ⟨-, ha⟩ | ⟨-, h⟩
    · simp [ha]
    · exact Nat.lt_add_right _ (hs.held h)
  · intro p q handle handle' h h' ha
    rcases hget h with ⟨hp, hnew⟩ | ⟨-, h⟩ <;> rcases hget h' with ⟨hq, hnew'⟩ | ⟨-, h'⟩
    · rw [hp, hq]
    · have := hs.held h'
      omega
    · have := hs.held h
      omega
    · exact hs.apart h h' ha

lemma IsSeparate.store (hs : shelf.IsSeparate) (place : Text) (m : Method) :
    (shelf.store place m).IsSeparate := by
  unfold Shelf.store
  split
  · exact hs
  · exact ⟨fun h => by simpa using hs.held h, hs.apart⟩

@[simp] lemma holding?_install_self (shelf : Shelf) (place : Text) (holding : Holding) :
    (shelf.install place holding).holding? place = some holding := by
  simp [holding?, install]

lemma holding?_install_of_ne (hs : shelf.IsSeparate) (h : other ≠ place) (holding : Holding) :
    (shelf.install place holding).holding? other = shelf.holding? other := by
  simp only [holding?, install, Entries.get?_put_of_ne h]
  cases hget : shelf.handles.get? other with
  | none => rfl
  | some handle => simp [List.getElem?_append_left (hs.held hget)]

lemma holding?_store_self (h : shelf.holding? place = some holding) (m : Method) :
    (shelf.store place m).holding? place = some (holding.store m) := by
  unfold holding? store at *
  cases hget : shelf.handles.get? place with
  | none => simp [hget] at h
  | some handle =>
    obtain ⟨methods, hmethods, rfl⟩ : ∃ methods,
        shelf.dictionaries[handle.address]? = some methods ∧ ⟨handle.name, methods⟩ = holding := by
      simpa [hget, Option.bind_eq_some_iff] using h
    simp [hget, hmethods, Holding.store]

lemma holding?_store_of_ne (hs : shelf.IsSeparate) (h : other ≠ place) (m : Method) :
    (shelf.store place m).holding? other = shelf.holding? other := by
  unfold store
  split
  · rfl
  · next handle hhandle =>
    simp only [holding?]
    cases hget : shelf.handles.get? other with
    | none => rfl
    | some found =>
      have hne : handle.address ≠ found.address := fun ha => h (hs.apart hhandle hget ha).symm
      simp [List.getElem?_modify, hne]

/-! ### What a command does -/

/-- A command leaves the shelf as it is, puts a registry into a place, or a method into the registry of
a place; one that fails leaves the shelf as it is. -/
lemma step_cases (shelf : Shelf) (command : Command) :
    (shelf.step command).2 = shelf ∨
    ∃ place answer, command.changes? = some place ∧ (shelf.step command).1 = .ok answer ∧
      ((∃ holding, (shelf.step command).2 = shelf.install place holding) ∨
        ∃ m, (shelf.step command).2 = shelf.store place m) := by
  have hadd (place : Text) (m : Method) (replace : Bool) : (shelf.add place m replace).2 = shelf ∨
      ∃ answer, (shelf.add place m replace).1 = .ok answer ∧
        (shelf.add place m replace).2 = shelf.store place m := by
    unfold add
    split
    · exact .inl rfl
    · split
      · exact .inl rfl
      · exact .inr ⟨_, rfl, rfl⟩
  cases command with
  | create place name => exact .inr ⟨place, _, rfl, rfl, .inl ⟨_, rfl⟩⟩
  | copy source target name =>
    simp only [step]
    split
    · exact .inl rfl
    · exact .inr ⟨target, _, rfl, rfl, .inl ⟨_, rfl⟩⟩
  | register place name params result description replace =>
    refine (hadd place ⟨name, params, result, description⟩ replace).imp id ?_
    rintro ⟨answer, hok, hstored⟩
    exact ⟨place, answer, rfl, hok, .inr ⟨_, hstored⟩⟩
  | add place m replace =>
    refine (hadd place m replace).imp id ?_
    rintro ⟨answer, hok, hstored⟩
    exact ⟨place, answer, rfl, hok, .inr ⟨_, hstored⟩⟩
  | get place key => exact .inl rfl
  | contains place key => exact .inl rfl
  | size place => exact .inl rfl
  | iterate place => exact .inl rfl
  | list place => exact .inl rfl

lemma IsSeparate.step (hs : shelf.IsSeparate) (command : Command) :
    (shelf.step command).2.IsSeparate := by
  rcases step_cases shelf command with h | ⟨place, answer, -, -, ⟨holding, h⟩ | ⟨m, h⟩⟩
  · rw [h]
    exact hs
  · rw [h]
    exact hs.install place holding
  · rw [h]
    exact hs.store place m

lemma IsSeparate.run (hs : shelf.IsSeparate) (commands : List Command) :
    (shelf.run commands).2.IsSeparate := by
  induction commands generalizing shelf with
  | nil => exact hs
  | cons command rest ih => exact ih (hs.step command)

lemma isSeparate_standard : standard.IsSeparate :=
  .install ⟨by simp, by simp⟩ _ _

/-- A command that fails changes no registry. -/
lemma step_of_error {command : Command} {fault : Fault} (h : (shelf.step command).1 = .error fault) :
    (shelf.step command).2 = shelf := by
  rcases step_cases shelf command with h' | ⟨place, answer, -, hok, -⟩
  · exact h'
  · rw [hok] at h
    cases h

/-- A command leaves the registries of other places alone. -/
lemma holding?_step_of_ne (hs : shelf.IsSeparate) {command : Command}
    (h : command.changes? ≠ some place) :
    (shelf.step command).2.holding? place = shelf.holding? place := by
  rcases step_cases shelf command with h' | ⟨target, answer, htarget, -, hstep⟩
  · rw [h']
  · have hne : place ≠ target := fun e => h (e ▸ htarget)
    rcases hstep with ⟨holding, h'⟩ | ⟨m, h'⟩
    · rw [h', holding?_install_of_ne hs hne]
    · rw [h', holding?_store_of_ne hs hne]

lemma holding?_run_of_ne (hs : shelf.IsSeparate) {commands : List Command}
    (h : ∀ command ∈ commands, command.changes? ≠ some place) :
    (shelf.run commands).2.holding? place = shelf.holding? place := by
  induction commands generalizing shelf with
  | nil => rfl
  | cons command rest ih =>
    obtain ⟨hcommand, hrest⟩ := List.forall_mem_cons.mp h
    exact (ih (hs.step command) hrest).trans (holding?_step_of_ne hs hcommand)

/-- A copy has the methods of its source, which it leaves alone. -/
lemma holding?_step_copy (hs : shelf.IsSeparate) (hne : place ≠ other)
    (h : shelf.holding? place = some holding) (name : Option Text) :
    (shelf.step (.copy place other name)).2.holding? place = some holding ∧
      (shelf.step (.copy place other name)).2.holding? other = some (holding.copy name) := by
  simp [step, h, holding?_install_of_ne hs hne]

end Shelf

/-! ### Ledgers -/

/-- Chronicles by the names of their places. -/
abbrev Ledger := Text → Option Chronicle

namespace Ledger

open ChainRpc.Shelf Function

/-- Notes that a method is stored in a place, unless that is refused. -/
def add (ledger : Ledger) (place : Text) (m : Method) (replace : Bool) : Ledger :=
  match ledger place with
  | none   => ledger
  | some c => if c.refuses m replace then ledger else update ledger place (some (c.store m))

/-- Notes what a command does. -/
def step (ledger : Ledger) : Command → Ledger
  | .create place name => update ledger place (some (.new name))
  | .copy source target name =>
    match ledger source with
    | none   => ledger
    | some c => update ledger target (some (c.copy name))
  | .register place name params result description replace =>
    ledger.add place ⟨name, params, result, description⟩ replace
  | .add place m replace => ledger.add place m replace
  | _ => ledger

/-- What the chronicle of a place lets its registry answer. -/
def ask (ledger : Ledger) (place : Text) (answer : Chronicle → Except RegistryFault Answer) :
    Except Fault Answer :=
  match ledger place with
  | none   => .error (.absent place)
  | some c => (answer c).mapError .refused

/-- What a command is answered. -/
def answer (ledger : Ledger) : Command → Except Fault Answer
  | .create _ name => .ok (.registered (Chronicle.new name).name)
  | .copy source _ name => ledger.ask source fun c => .ok (.registered (c.copy name).name)
  | .register place name params result description replace =>
    ledger.ask place fun c => c.addition ⟨name, params, result, description⟩ replace
  | .add place m replace => ledger.ask place fun c => c.addition m replace
  | .get place key => ledger.ask place fun c => c.lookup key
  | .contains place key => ledger.ask place fun c => c.membership key
  | .size place => ledger.ask place fun c => .ok (.size c.names.length)
  | .iterate place => ledger.ask place fun c => .ok (.methods (c.entries.map (·.2)))
  | .list place => ledger.ask place fun c => .ok (.entries c.entries)

/-- What commands one after the other are answered, and the ledger after them. -/
def run (ledger : Ledger) : List Command → List (Except Fault Answer) × Ledger
  | [] => ([], ledger)
  | command :: rest =>
    let (answers, final) := run (ledger.step command) rest
    (ledger.answer command :: answers, final)

/-- The ledger of the methods of a node. -/
def standard : Ledger :=
  update (fun _ => none) "ckb" (some ⟨"ckb", Method.table⟩)

section Ask

variable {ledger : Ledger} {place : Text} {asked : Chronicle → Except RegistryFault Answer}

lemma ask_eq_ok_iff {found : Answer} :
    ledger.ask place asked = .ok found ↔ ∃ c, ledger place = some c ∧ asked c = .ok found := by
  rw [ask]
  cases ledger place <;> simp [Checked.mapError_eq_ok_iff]

lemma ask_eq_refused_iff {cause : RegistryFault} :
    ledger.ask place asked = .error (.refused cause) ↔
      ∃ c, ledger place = some c ∧ asked c = .error cause := by
  rw [ask]
  cases ledger place <;> simp [Checked.mapError_eq_error_iff]

end Ask

/-- In every place of a shelf there is the map that a ledger tells of. -/
def Fits (ledger : Ledger) (shelf : Shelf) : Prop :=
  ∀ place, Option.Rel Reflects (ledger place) (shelf.holding? place)

namespace Fits

variable {ledger : Ledger} {shelf : Shelf} {place : Text} {c : Chronicle} {h : Holding}

lemma install (hs : shelf.IsSeparate) (hf : ledger.Fits shelf) (hr : Reflects c h) (place : Text) :
    Fits (update ledger place (some c)) (shelf.install place h) := by
  intro other
  by_cases ho : other = place
  · subst ho
    simpa using Option.Rel.some hr
  · rw [update_of_ne ho, holding?_install_of_ne hs ho]
    exact hf other

lemma store (hs : shelf.IsSeparate) (hf : ledger.Fits shelf) (hr : Reflects c h)
    (hh : shelf.holding? place = some h) (m : Method) :
    Fits (update ledger place (some (c.store m))) (shelf.store place m) := by
  intro other
  by_cases ho : other = place
  · subst ho
    rw [update_self, holding?_store_self hh]
    exact .some (hr.store m)
  · rw [update_of_ne ho, holding?_store_of_ne hs ho]
    exact hf other

lemma cases (hf : ledger.Fits shelf) (place : Text) :
    ledger place = none ∧ shelf.holding? place = none ∨
      ∃ c h, ledger place = some c ∧ shelf.holding? place = some h ∧ Reflects c h := by
  have h := hf place
  generalize ledger place = c? at h
  generalize shelf.holding? place = h? at h
  cases h with
  | none => exact .inl ⟨rfl, rfl⟩
  | some hr => exact .inr ⟨_, _, rfl, rfl, hr⟩

lemma reflects (hf : ledger.Fits shelf) (hh : shelf.holding? place = some h) :
    ∃ c, ledger place = some c ∧ Reflects c h := by
  rcases hf.cases place with ⟨-, hnone⟩ | ⟨c, h', hc, hh', hr⟩
  · cases hnone.symm.trans hh
  · obtain rfl := Option.some.inj (hh'.symm.trans hh)
    exact ⟨c, hc, hr⟩

lemma ask (hf : ledger.Fits shelf) {f : Holding → Except RegistryFault Answer}
    {g : Chronicle → Except RegistryFault Answer} (hfg : ∀ {c h}, Reflects c h → f h = g c) :
    shelf.ask place f = ledger.ask place g := by
  rcases hf.cases place with ⟨hc, hh⟩ | ⟨c, h, hc, hh, hr⟩
  · simp [Shelf.ask, Ledger.ask, hc, hh]
  · simp [Shelf.ask, Ledger.ask, hc, hh, hfg hr]

lemma add (hs : shelf.IsSeparate) (hf : ledger.Fits shelf) (place : Text) (m : Method)
    (replace : Bool) :
    (shelf.add place m replace).1 = ledger.ask place (fun c => c.addition m replace) ∧
      (ledger.add place m replace).Fits (shelf.add place m replace).2 := by
  rcases hf.cases place with ⟨hc, hh⟩ | ⟨c, h, hc, hh, hr⟩
  · simpa [Shelf.add, Ledger.add, Ledger.ask, hc, hh] using hf
  · by_cases hrefused : c.refuses m replace
    · simpa [Shelf.add, Ledger.add, Ledger.ask, Chronicle.addition, hc, hh, hr.refuses_eq, hrefused,
        Except.mapError] using hf
    · simpa [Shelf.add, Ledger.add, Ledger.ask, Chronicle.addition, hc, hh, hr.refuses_eq, hrefused,
        Except.mapError] using hf.store hs hr hh m

/-- A command is answered as the ledger says, which then tells of the shelf after the command. -/
lemma step (hs : shelf.IsSeparate) (hf : ledger.Fits shelf) (command : Command) :
    (shelf.step command).1 = ledger.answer command ∧
      (ledger.step command).Fits (shelf.step command).2 := by
  cases command with
  | create place name => exact ⟨rfl, hf.install hs (.new name) place⟩
  | copy source target name =>
    rcases hf.cases source with ⟨hc, hh⟩ | ⟨c, h, hc, hh, hr⟩
    · simpa [Shelf.step, Ledger.step, Ledger.answer, Ledger.ask, hc, hh] using hf
    · simpa [Shelf.step, Ledger.step, Ledger.answer, Ledger.ask, hc, hh, Except.mapError,
        (hr.copy name).name] using hf.install hs (hr.copy name) target
  | register place name params result description replace => exact hf.add hs place _ replace
  | add place m replace => exact hf.add hs place m replace
  | get place key => exact ⟨hf.ask fun hr => hr.lookup_eq key, hf⟩
  | contains place key => exact ⟨hf.ask fun hr => hr.membership_eq key, hf⟩
  | size place => exact ⟨hf.ask fun hr => by rw [← hr.order, Entries.names, List.length_map], hf⟩
  | iterate place => exact ⟨hf.ask fun hr => by rw [Holding.registry, hr.entries_eq], hf⟩
  | list place => exact ⟨hf.ask fun hr => by rw [hr.entries_eq], hf⟩

lemma run (hs : shelf.IsSeparate) (hf : ledger.Fits shelf) (commands : List Command) :
    (shelf.run commands).1 = (ledger.run commands).1 ∧
      (ledger.run commands).2.Fits (shelf.run commands).2 := by
  induction commands generalizing ledger shelf with
  | nil => exact ⟨rfl, hf⟩
  | cons command rest ih =>
    obtain ⟨hanswer, hnext⟩ := hf.step hs command
    obtain ⟨hanswers, hfinal⟩ := ih (hs.step command) hnext
    exact ⟨congrArg₂ List.cons hanswer hanswers, hfinal⟩

/-- What a name finds in a place is told by what was stored there. -/
lemma lookups (hf : ledger.Fits shelf) (place name : Text) :
    (∀ m, (shelf.step (.get place (.str name))).1 = .ok (.method m) ↔
      ∃ c, ledger place = some c ∧ c.IsLatest name m) ∧
    ((shelf.step (.get place (.str name))).1 = .error (.refused (.unknown (.str name))) ↔
      ∃ c, ledger place = some c ∧ ∀ m ∈ c.stored, m.name ≠ name) ∧
    ((shelf.step (.contains place (.str name))).1 = .ok (.holds true) ↔
      ∃ c, ledger place = some c ∧ ∃ m ∈ c.stored, m.name = name) := by
  have hget : (shelf.step (.get place (.str name))).1 = ledger.ask place fun c => c.lookup (.str name) :=
    hf.ask fun hr => hr.lookup_eq _
  have hcontains : (shelf.step (.contains place (.str name))).1 =
      ledger.ask place fun c => c.membership (.str name) :=
    hf.ask fun hr => hr.membership_eq _
  rw [hget, hcontains, ask_eq_refused_iff, ask_eq_ok_iff]
  simp only [ask_eq_ok_iff, Chronicle.lookup_eq_ok_iff, Chronicle.lookup_eq_unknown_iff,
    Chronicle.membership_eq_true_iff, implies_true, and_self]

lemma standard : Ledger.standard.Fits Shelf.standard := by
  have hempty : Fits (fun _ => none) {} := fun _ => .none
  exact hempty.install ⟨by simp, by simp⟩ ((Reflects.new (some "ckb")).storeAll Method.table) "ckb"

end Fits

end Ledger

namespace Shelf

/-- Registries are maps in the order of first registration, each for itself. Whatever is done from the
start on, all answers are those that the ledger gives, and every registry holds for each name the method
stored last, under distinct names in the order in which they were first stored. A name finds the method that
was stored under it last, and is unknown exactly if none was; clients that have the registry find the same,
and may add to it what the ledger does not refuse. What fails changes nothing. A copy begins with the methods
of its source, and no registry changes but by what is done to it, be it a copy or the source of one; so the
methods of a node stay as they are while only copies change. -/
theorem registries_of_run (commands : List Command) :
    let shelf := (standard.run commands).2
    let ledger := (Ledger.standard.run commands).2
    (standard.run commands).1 = (Ledger.standard.run commands).1 ∧
    ledger.Fits shelf ∧
    (∀ place name,
      (∀ m, (shelf.step (.get place (.str name))).1 = .ok (.method m) ↔
        ∃ c, ledger place = some c ∧ c.IsLatest name m) ∧
      ((shelf.step (.get place (.str name))).1 = .error (.refused (.unknown (.str name))) ↔
        ∃ c, ledger place = some c ∧ ∀ m ∈ c.stored, m.name ≠ name) ∧
      ((shelf.step (.contains place (.str name))).1 = .ok (.holds true) ↔
        ∃ c, ledger place = some c ∧ ∃ m ∈ c.stored, m.name = name)) ∧
    (∀ place holding, shelf.holding? place = some holding → ∃ c, ledger place = some c ∧
      (∀ key, (holding.registry.get key).map .method = c.lookup key) ∧
      ∀ m replace, holding.registry.add m replace =
        if c.refuses m replace then .error (.alreadyRegistered m.name)
        else .ok (holding.store m).registry) ∧
    (∀ command fault, (shelf.step command).1 = .error fault → (shelf.step command).2 = shelf) ∧
    (∀ place further, (∀ command ∈ further, command.changes? ≠ some place) →
      (shelf.run further).2.holding? place = shelf.holding? place) ∧
    (∀ source target name holding, source ≠ target → shelf.holding? source = some holding →
      (shelf.step (.copy source target name)).2.holding? source = some holding ∧
      (shelf.step (.copy source target name)).2.holding? target = some (holding.copy name)) ∧
    ((∀ command ∈ commands, command.changes? ≠ some "ckb") →
      shelf.holding? "ckb" = some .ckb) := by
  intro shelf ledger
  obtain ⟨hanswers, hfits⟩ := Ledger.Fits.standard.run isSeparate_standard commands
  have hs : shelf.IsSeparate := isSeparate_standard.run commands
  refine ⟨hanswers, hfits, hfits.lookups, ?_, fun _ _ => step_of_error, fun _ _ => holding?_run_of_ne hs,
    ?_, ?_⟩
  · intro place holding hholding
    obtain ⟨c, hc, hr⟩ := hfits.reflects hholding
    exact ⟨c, hc, hr.get_registry, hr.add_registry⟩
  · intro source target name holding hne hholding
    exact holding?_step_copy hs hne hholding name
  · intro hothers
    exact (holding?_run_of_ne isSeparate_standard hothers).trans (holding?_install_self _ _ _)

/-- A method without parameters. -/
def bare (name : Text) (description : Option Text) : Method :=
  ⟨name, [], .json, description⟩

/-- A copy of the methods of a node in which a method is replaced and another is registered, a copy of the
copy with one method more, and a registry in which the first of two methods is replaced and the second is
registered once more, which is refused. -/
def copies : List Command := [
  .copy "ckb" "mine" (some "custom"), .add "mine" (bare "get_tip_header" none) true,
  .add "mine" (bare "ping" none) false, .copy "mine" "other" none,
  .add "other" (bare "pong" none) false,
  .create "own" none, .register "own" "a" [] .json none false, .register "own" "b" [] .json none false,
  .add "own" (bare "a" (some "new")) true, .register "own" "b" [] .json (some "new") false]

/-- The methods of a node stay as they are, while the copies and the new registry answer with what was stored
in them last, each with its own. The refused method is not found, and the replacing one stands first, where the
replaced one stood. -/
theorem registries_of_run_copies :
    (∀ command ∈ copies, command.changes? ≠ some "ckb") ∧
    (standard.run copies).2.holding? "ckb" = some .ckb ∧
    (standard.run copies).1.getLast? = some (.error (.refused (.alreadyRegistered "b"))) ∧
    ((standard.run copies).2.run [.size "ckb", .size "mine", .size "other", .size "own"]).1 =
      [.ok (.size 29), .ok (.size 30), .ok (.size 31), .ok (.size 2)] ∧
    ((standard.run copies).2.run [.get "ckb" (.str "get_tip_header"), .get "mine" (.str "get_tip_header"),
        .get "other" (.str "pong"), .get "mine" (.str "pong"), .contains "mine" (.str "pong")]).1 =
      [.ok (.method .getTipHeader), .ok (.method (bare "get_tip_header" none)),
        .ok (.method (bare "pong" none)), .error (.refused (.unknown (.str "pong"))), .ok (.holds false)] ∧
    ((standard.run copies).2.run [.get "own" (.str "a"), .get "own" (.str "b"), .iterate "own"]).1 =
      [.ok (.method (bare "a" (some "new"))), .ok (.method (bare "b" none)),
        .ok (.methods [bare "a" (some "new"), bare "b" none])] := by
  refine ⟨by decide, (registries_of_run copies).2.2.2.2.2.2.2 (by decide), ?_, ?_, ?_, ?_⟩
  all_goals rfl

end Shelf

end ChainRpc
