import Untrack.Proofs.Registry.Turn

namespace Untrack.Cleaner

open Untrack.Rules (Answer Fetcher Registry fetchesIn fetchesIn_append)

/-!
# Callers that share a registry

Several callers clean a link each, all at one reading of the clock. A lock guards
the registry. The caller that has it looks whether the rules are stale, refreshes
them if they are, and gives the lock back with the providers in force; only then
does it clean its link. Who goes on next is left open: one caller may clean while
another refreshes, and a caller that finds the lock taken has to wait.

`Stage` says how far such callers can have come at any time, and with that the
order in which they took the lock turns out not to matter.
-/

/-- What cleaning a link comes to, with what making sure of fresh rules gave. -/
def cleanedWith (link : String) :
    Except Failure (List Provider) → Except Failure String × List Event
  | .error failure => (.error (.notLoaded (Text.trim link) failure), [])
  | .ok [] => (.error (.nothingLoaded (Text.trim link)), [])
  | .ok (provider :: rest) =>
      let given := (Text.trim link).toList
      let matched := matching (provider :: rest) given
      (.ok (String.ofList (apply matched given)),
        (applied matched given).map .notice)

/-- How far a caller has come with its link. -/
inductive Caller where
  /-- It has not had the lock yet. -/
  | waiting (link : String)
  /-- It has the lock, and has found the rules stale. -/
  | refreshing (link : String)
  /-- It has given the lock back. -/
  | cleaning (link : String) (fresh : Except Failure (List Provider))
  | done (link : String) (result : Except Failure String)
  deriving Repr

namespace Caller

/-- The link that a caller cleans. -/
def link : Caller → String
  | .waiting link => link
  | .refreshing link => link
  | .cleaning link _ => link
  | .done link _ => link

/-- The caller has the lock. -/
def hasLock : Caller → Bool
  | .refreshing _ => true
  | _ => false

/-- The caller has a result. -/
def isDone : Caller → Bool
  | .done _ _ => true
  | _ => false

end Caller

/-- A registry, its callers, the fetcher's state, and what happened so far. -/
structure Scene (σ : Type) where
  registry : Registry
  state : σ
  callers : List Caller
  events : List Event

namespace Scene

variable {σ : Type}

/-- Nobody has had the lock yet. -/
def opening (registry : Registry) (state : σ) (links : List String) : Scene σ where
  registry
  state
  callers := links.map .waiting
  events := []

/-- Nobody has the lock. -/
def IsFree (scene : Scene σ) : Prop :=
  ∀ caller ∈ scene.callers, caller.hasLock = false

/-- Everybody has a result. -/
def IsOver (scene : Scene σ) : Prop :=
  ∀ caller ∈ scene.callers, caller.isDone = true

end Scene

/-! ## What one caller can do -/

namespace Scene

variable {σ : Type} (scene : Scene σ) (place : Nat) (link : String)

/-- The scene with a caller in another state. -/
def put (caller : Caller) : Scene σ :=
  { scene with callers := scene.callers.set place caller }

/-- A caller takes the lock, finds the rules fresh, and gives it back. -/
def pass : Scene σ :=
  scene.put place (.cleaning link (.ok scene.registry.providers))

/-- A caller takes the lock and finds the rules stale. -/
def enter : Scene σ :=
  { scene.put place (.refreshing link) with
    events := scene.events ++ [.notice .outdated] }

/-- The caller that has the lock refreshes the rules and gives it back. -/
def leave (fetcher : Fetcher σ) (now : Nat) : Scene σ :=
  let answer := scene.registry.refresh fetcher now scene.state
  { registry := answer.registry
    state := answer.state
    callers :=
      scene.callers.set place
        (.cleaning link (answer.result.map fun _ => answer.registry.providers))
    events := scene.events ++ answer.events }

/-- A caller cleans its link with what it got. -/
def finish (fresh : Except Failure (List Provider)) : Scene σ :=
  { scene.put place (.done link (cleanedWith link fresh).1) with
    events := scene.events ++ (cleanedWith link fresh).2 }

end Scene

/-- One caller goes one step on; the number is that of a caller who takes the lock. -/
inductive Step
    {σ : Type}
    (fetcher : Fetcher σ)
    (now : Nat)
    (scene : Scene σ) :
    Option Nat → Scene σ → Prop where
  | pass
      {place : Nat}
      {link : String}
      (waits : scene.callers[place]? = some (.waiting link))
      (free : scene.IsFree)
      (fresh : scene.registry.isStale now = false) :
      Step fetcher now scene (some place) (scene.pass place link)
  | enter
      {place : Nat}
      {link : String}
      (waits : scene.callers[place]? = some (.waiting link))
      (free : scene.IsFree)
      (stale : scene.registry.isStale now = true) :
      Step fetcher now scene (some place) (scene.enter place link)
  | leave
      {place : Nat}
      {link : String}
      (refreshes : scene.callers[place]? = some (.refreshing link)) :
      Step fetcher now scene none (scene.leave place link fetcher now)
  | finish
      {place : Nat}
      {link : String}
      {fresh : Except Failure (List Provider)}
      (cleans : scene.callers[place]? = some (.cleaning link fresh)) :
      Step fetcher now scene none (scene.finish place link fresh)

/-- Steps of any callers, with the numbers of those who took the lock, in order. -/
inductive Interleaves
    {σ : Type}
    (fetcher : Fetcher σ)
    (now : Nat)
    (start : Scene σ) :
    List Nat → Scene σ → Prop where
  | refl :
      Interleaves fetcher now start [] start
  | step
      {order : List Nat}
      {scene later : Scene σ}
      {taker : Option Nat} :
      Interleaves fetcher now start order scene →
      Step fetcher now scene taker later →
      Interleaves fetcher now start (order ++ taker.toList) later

/-! ## One caller after another -/

/-- With providers the result of cleaning a link is a link. -/
theorem cleanedWith_of_ne_nil
    (link : String)
    {providers : List Provider}
    (hasProviders : providers ≠ []) :
    (cleanedWith link (.ok providers)).1 =
      .ok (String.ofList (clean providers (Text.trim link).toList)) := by
  cases providers with
  | nil =>
      exact (hasProviders rfl).elim
  | cons provider rest =>
      simp [cleanedWith, clean]

/-- Cleaning a link is making sure of fresh rules and then cleaning with them. -/
theorem strip_eq_cleanedWith
    {σ : Type}
    (fetcher : Fetcher σ)
    (registry : Registry)
    (now : Nat)
    (link : String)
    (state : σ) :
    let fresh := registry.ensureFresh fetcher now state
    strip fetcher registry now link state =
      { result := (cleanedWith link fresh.result).1
        registry := fresh.registry
        state := fresh.state
        events := fresh.events ++ (cleanedWith link fresh.result).2 } := by
  simp only [strip]
  generalize registry.ensureFresh fetcher now state = fresh
  rcases fresh with ⟨result, after, left, events⟩
  cases result with
  | error failure =>
      simp [cleanedWith]
  | ok providers =>
      cases providers with
      | nil =>
          simp [cleanedWith]
      | cons provider rest =>
          simp [cleanedWith, clean]

namespace Scene

variable {σ : Type} (scene : Scene σ) (place : Nat) (link : String)
  (fetcher : Fetcher σ) (now : Nat)

/-- A caller takes the lock and gives it back before anything else happens. -/
def ensureFresh : Scene σ :=
  let fresh := scene.registry.ensureFresh fetcher now scene.state
  { registry := fresh.registry
    state := fresh.state
    callers := scene.callers.set place (.cleaning link fresh.result)
    events := scene.events ++ fresh.events }

/-- A caller cleans its link before anything else happens. -/
def strip : Scene σ :=
  let answer := Cleaner.strip fetcher scene.registry now link scene.state
  { registry := answer.registry
    state := answer.state
    callers := scene.callers.set place (.done link answer.result)
    events := scene.events ++ answer.events }

variable {scene}

/-- A caller that has cleaned its link does not have the lock. -/
theorem isFree_strip
    (free : scene.IsFree) :
    (scene.strip place link fetcher now).IsFree := by
  intro caller member
  rcases List.mem_or_eq_of_mem_set member with isOld | isNew
  · exact free caller isOld
  · rw [isNew]
    rfl

end Scene

namespace Interleaves

variable {σ : Type} {fetcher : Fetcher σ} {now : Nat} {start scene : Scene σ}
  {order : List Nat} {place : Nat} {link : String}

/-- While the lock is free, a caller can take it and give it back at once. -/
theorem ensureFresh
    (leads : Interleaves fetcher now start order scene)
    (free : scene.IsFree)
    (waits : scene.callers[place]? = some (.waiting link)) :
    Interleaves fetcher now start (order ++ [place])
      (scene.ensureFresh place link fetcher now) := by
  have within : place < scene.callers.length :=
    (List.getElem?_eq_some_iff.mp waits).1
  cases stale : scene.registry.isStale now with
  | false =>
      have passed := leads.step (.pass waits free stale)
      have same :
          scene.pass place link = scene.ensureFresh place link fetcher now := by
        simp [Scene.pass, Scene.put, Scene.ensureFresh, Registry.ensureFresh, stale]
      rw [same] at passed
      exact passed
  | true =>
      have entered := leads.step (.enter waits free stale)
      have isRefreshing :
          (scene.enter place link).callers[place]? =
            some (.refreshing link) := by
        simp [Scene.enter, Scene.put, within]
      have left := entered.step (.leave isRefreshing)
      have same :
          (scene.enter place link).leave place link fetcher now =
            scene.ensureFresh place link fetcher now := by
        simp [Scene.enter, Scene.put, Scene.leave, Scene.ensureFresh,
          Registry.ensureFresh, stale]
      rw [same] at left
      simpa using left

/-- While the lock is free, a caller that waits for it can clean its link at once. -/
theorem strip
    (leads : Interleaves fetcher now start order scene)
    (free : scene.IsFree)
    (waits : scene.callers[place]? = some (.waiting link)) :
    Interleaves fetcher now start (order ++ [place])
      (scene.strip place link fetcher now) := by
  have within : place < scene.callers.length :=
    (List.getElem?_eq_some_iff.mp waits).1
  have cleans :
      (scene.ensureFresh place link fetcher now).callers[place]? =
        some (.cleaning link
          (scene.registry.ensureFresh fetcher now scene.state).result) := by
    simp [Scene.ensureFresh, within]
  have finished := (leads.ensureFresh free waits).step (.finish cleans)
  have same :
      (scene.ensureFresh place link fetcher now).finish place link
          (scene.registry.ensureFresh fetcher now scene.state).result =
        scene.strip place link fetcher now := by
    simp [Scene.finish, Scene.put, Scene.ensureFresh, Scene.strip,
      strip_eq_cleanedWith]
  rw [same] at finished
  simpa using finished

/--
Callers that wait can clean their links one after another, in any order. That is
what cleaning the links in this order comes to.
-/
private theorem exists_stripAll_from
    {links : List String}
    {places : List Nat}
    (leads : Interleaves fetcher now start order scene)
    (free : scene.IsFree)
    (distinct : places.Nodup)
    (waiting :
      ∀ place ∈ places, ∃ link,
        links[place]? = some link ∧
          scene.callers[place]? = some (.waiting link)) :
    ∃ later,
      Interleaves fetcher now start (order ++ places) later ∧
        (let answer :=
          stripAll fetcher scene.registry now (places.filterMap (links[·]?))
            scene.state
        later.registry = answer.registry ∧
          later.state = answer.state ∧
          later.events = scene.events ++ answer.events) ∧
        (∀ place ∈ places, ∀ caller,
          later.callers[place]? = some caller → caller.isDone = true) ∧
        ∀ place ∉ places, later.callers[place]? = scene.callers[place]? := by
  induction places generalizing order scene with
  | nil =>
      refine ⟨scene, ?_, ?_, ?_, ?_⟩
      · simpa using leads
      · simp [stripAll]
      · simp
      · simp
  | cons place rest inductionHypothesis =>
      obtain ⟨notLater, restDistinct⟩ := List.nodup_cons.mp distinct
      obtain ⟨link, isLink, waits⟩ := waiting place (by simp)
      have others (other : Nat) (different : other ≠ place) :
          (scene.strip place link fetcher now).callers[other]? =
            scene.callers[other]? :=
        List.getElem?_set_ne different.symm
      have restWaits :
          ∀ other ∈ rest, ∃ otherLink,
            links[other]? = some otherLink ∧
              (scene.strip place link fetcher now).callers[other]? =
                some (.waiting otherLink) := by
        intro other inRest
        obtain ⟨otherLink, isOther, otherWaits⟩ :=
          waiting other (List.mem_cons_of_mem place inRest)
        refine ⟨otherLink, isOther, ?_⟩
        have different : other ≠ place := by
          rintro rfl
          exact notLater inRest
        rw [others other different, otherWaits]
      obtain ⟨later, leadsLater, sameAnswer, areDone, untouched⟩ :=
        inductionHypothesis (leads.strip free waits)
          (Scene.isFree_strip place link fetcher now free) restDistinct restWaits
      refine ⟨later, ?_, ?_, ?_, ?_⟩
      · rw [List.append_assoc] at leadsLater
        exact leadsLater
      · simp only [List.filterMap_cons, isLink, stripAll]
        obtain ⟨sameRegistry, sameState, sameEvents⟩ := sameAnswer
        exact ⟨sameRegistry, sameState, by
          rw [sameEvents]
          simp [Scene.strip]⟩
      · intro other member caller isCaller
        rcases List.mem_cons.mp member with isFirst | inRest
        · subst isFirst
          rw [untouched other notLater] at isCaller
          have within : other < scene.callers.length :=
            (List.getElem?_eq_some_iff.mp waits).1
          simp only [Scene.strip, List.getElem?_set_self within,
            Option.some.injEq] at isCaller
          rw [← isCaller]
          rfl
        · exact areDone other inRest caller isCaller
      · intro other absent
        rw [List.mem_cons, not_or] at absent
        rw [untouched other absent.2, others other absent.1]

end Interleaves

/-- Callers can take the lock in any order. -/
theorem exists_interleaving
    {σ : Type}
    (fetcher : Fetcher σ)
    (now : Nat)
    (registry : Registry)
    (state : σ)
    (links : List String)
    {order : List Nat}
    (isOrder : order.Perm (List.range links.length)) :
    ∃ scene,
      Interleaves fetcher now (.opening registry state links) order scene ∧
        scene.IsOver ∧
        let answer :=
          stripAll fetcher registry now (order.filterMap (links[·]?)) state
        scene.registry = answer.registry ∧
          scene.state = answer.state ∧
          scene.events = answer.events := by
  have free : (Scene.opening registry state links).IsFree := by
    intro caller member
    obtain ⟨link, -, rfl⟩ := List.mem_map.mp member
    rfl
  have waiting :
      ∀ place ∈ order, ∃ link,
        links[place]? = some link ∧
          (Scene.opening registry state links).callers[place]? =
            some (.waiting link) := by
    intro place inOrder
    have within : place < links.length :=
      List.mem_range.mp (isOrder.mem_iff.mp inOrder)
    exact ⟨links[place], by simp [Scene.opening, within]⟩
  have opens :
      Interleaves fetcher now (.opening registry state links) []
        (.opening registry state links) :=
    .refl
  obtain ⟨scene, leads, sameAnswer, areDone, untouched⟩ :=
    opens.exists_stripAll_from free
      (isOrder.nodup_iff.mpr List.nodup_range) waiting
  refine ⟨scene, leads, ?_, by simpa [Scene.opening] using sameAnswer⟩
  intro caller member
  obtain ⟨place, isCaller⟩ := List.mem_iff_getElem?.mp member
  by_cases inOrder : place ∈ order
  · exact areDone place inOrder caller isCaller
  · have past : links.length ≤ place := by
      rw [isOrder.mem_iff, List.mem_range] at inOrder
      exact Nat.le_of_not_lt inOrder
    rw [untouched place inOrder] at isCaller
    simp [Scene.opening, past] at isCaller

/-! ## How far callers can have come -/

/-- The caller knows of no other providers than these. -/
inductive Caller.IsServed (providers : List Provider) : Caller → Prop where
  | waiting (link : String) :
      IsServed providers (.waiting link)
  | cleaning (link : String) :
      IsServed providers (.cleaning link (.ok providers))
  | done (link : String) :
      IsServed providers (.done link (cleanedWith link (.ok providers)).1)

/-- Making sure of fresh rules gives providers, and leaves the rules fresh. -/
structure Refreshes
    {σ : Type}
    (fetcher : Fetcher σ)
    (now : Nat)
    (registry : Registry)
    (fresh : Answer σ (Except Failure (List Provider))) :
    Prop where
  result :
    fresh.result = .ok fresh.registry.providers
  hasProviders :
    fresh.registry.providers ≠ []
  isFresh :
    fresh.registry.isStale now = false
  fetches :
    fetchesIn fresh.events = if registry.isStale now then 1 else 0

/-- With providers, or with a first fetch that brings some, rules become fresh. -/
theorem refreshes_ensureFresh
    {σ : Type}
    (fetcher : Fetcher σ)
    (now : Nat)
    (registry : Registry)
    (state : σ)
    {texts : List String}
    (sound : registry.Sound texts)
    (positive : 0 < registry.interval)
    (hasProviders :
      registry.providers ≠ [] ∨
        (registry.refresh fetcher now state).registry.providers ≠ []) :
    Refreshes fetcher now registry (registry.ensureFresh fetcher now state) := by
  cases stale : registry.isStale now with
  | false =>
      have isTimed : registry.refreshedAt ≠ none := by
        intro untimed
        simp [Registry.isStale, untimed] at stale
      simp only [Registry.ensureFresh, stale, Bool.false_eq_true, ↓reduceIte]
      exact
        { result := rfl
          hasProviders := sound.timed isTimed
          isFresh := stale
          fetches := by simp [fetchesIn, stale] }
  | true =>
      have outcome := Registry.refresh_outcome fetcher registry now state
      have fetches := Registry.fetchesIn_refresh fetcher registry now state
      simp only [Registry.ensureFresh, stale, ↓reduceIte]
      generalize registry.refresh fetcher now state = answer at *
      have someAfter : answer.registry.providers ≠ [] :=
        hasProviders.elim (fun some => (outcome.goes_on some).2) id
      refine
        { result := ?_
          hasProviders := someAfter
          isFresh := ?_
          fetches := ?_ }
      · cases gave : answer.result with
        | error failure =>
            rw [gave] at outcome
            exact (someAfter outcome.of_error).elim
        | ok done =>
            simp [Except.map]
      · simp [Registry.isStale, outcome.refreshedAt_of_ne_nil someAfter,
          outcome.interval_eq, Nat.ne_of_gt positive]
      · simpa [fetchesIn, stale] using fetches

/--
What a scene can look like, from an opening on in which nobody has had the lock;
`fresh` is the answer of the first caller who has it. As long as that one
refreshes, nobody else can do anything but wait.
-/
inductive Stage
    {σ : Type}
    (now : Nat)
    (registry : Registry)
    (state : σ)
    (fresh : Answer σ (Except Failure (List Provider))) :
    Scene σ → Prop where
  | before
      {callers : List Caller}
      (waiting : ∀ caller ∈ callers, ∃ link, caller = .waiting link) :
      Stage now registry state fresh
        { registry, state, callers, events := [] }
  | during
      {callers : List Caller}
      {place : Nat}
      {link : String}
      (stale : registry.isStale now = true)
      (refreshes : callers[place]? = some (.refreshing link))
      (waiting :
        ∀ other caller, other ≠ place →
          callers[other]? = some caller → ∃ link, caller = .waiting link) :
      Stage now registry state fresh
        { registry, state, callers, events := [.notice .outdated] }
  | after
      {callers : List Caller}
      {events : List Event}
      (served :
        ∀ caller ∈ callers, caller.IsServed fresh.registry.providers)
      (fetches : fetchesIn events = if registry.isStale now then 1 else 0) :
      Stage now registry state fresh
        { registry := fresh.registry, state := fresh.state, callers, events }

/-- Cleaning a link tells of no fetch. -/
theorem fetchesIn_cleanedWith
    (link : String)
    (fresh : Except Failure (List Provider)) :
    fetchesIn (cleanedWith link fresh).2 = 0 := by
  cases fresh with
  | error failure =>
      simp [cleanedWith, fetchesIn]
  | ok providers =>
      cases providers with
      | nil =>
          simp [cleanedWith, fetchesIn]
      | cons provider rest =>
          simp only [cleanedWith, fetchesIn_applied]

/-- A caller that has been served may take the place of another. -/
private theorem isServed_set
    {providers : List Provider}
    {callers : List Caller}
    {caller : Caller}
    (served : ∀ other ∈ callers, other.IsServed providers)
    (isServed : caller.IsServed providers)
    (place : Nat) :
    ∀ other ∈ callers.set place caller, other.IsServed providers := by
  intro other member
  rcases List.mem_or_eq_of_mem_set member with isOld | isNew
  · exact served other isOld
  · rw [isNew]
    exact isServed

namespace Stage

variable {σ : Type} {fetcher : Fetcher σ} {now : Nat} {registry : Registry}
  {state : σ} {fresh : Answer σ (Except Failure (List Provider))}
  {callers : List Caller} {scene later : Scene σ} {taker : Option Nat}

/-- As long as nobody has had the lock, all that can happen is that somebody takes it. -/
private theorem step_before
    (isAnswer : registry.ensureFresh fetcher now state = fresh)
    (waiting : ∀ caller ∈ callers, ∃ link, caller = .waiting link)
    (step :
      Step fetcher now { registry, state, callers, events := [] } taker later) :
    Stage now registry state fresh later := by
  cases step with
  | pass isWaiting free isFresh =>
      have unchanged :
          fresh =
            { result := .ok registry.providers, registry, state, events := [] } := by
        rw [← isAnswer]
        simp [Registry.ensureFresh, isFresh]
      subst unchanged
      refine .after (isServed_set ?_ (.cleaning _) _) (by simp [fetchesIn, isFresh])
      intro caller member
      obtain ⟨link, rfl⟩ := waiting caller member
      exact .waiting link
  | enter isWaiting free stale =>
      rename_i place link
      have within : place < callers.length :=
        (List.getElem?_eq_some_iff.mp isWaiting).1
      have isRefreshing :
          (callers.set place (.refreshing link))[place]? =
            some (.refreshing link) :=
        List.getElem?_set_self within
      refine .during stale isRefreshing ?_
      intro other caller different isCaller
      simp only [Scene.put, List.getElem?_set_ne different.symm] at isCaller
      exact waiting caller (List.mem_of_getElem? isCaller)
  | leave isRefreshing =>
      obtain ⟨link, impossible⟩ := waiting _ (List.mem_of_getElem? isRefreshing)
      cases impossible
  | finish isCleaning =>
      obtain ⟨link, impossible⟩ := waiting _ (List.mem_of_getElem? isCleaning)
      cases impossible

/-- While somebody refreshes, all that can happen is that this is over. -/
private theorem step_during
    (isAnswer : registry.ensureFresh fetcher now state = fresh)
    (refreshes : Refreshes fetcher now registry fresh)
    {place : Nat}
    {link : String}
    (stale : registry.isStale now = true)
    (isRefreshing : callers[place]? = some (.refreshing link))
    (waiting :
      ∀ other caller, other ≠ place →
        callers[other]? = some caller → ∃ link, caller = .waiting link)
    (step :
      Step fetcher now
        { registry, state, callers, events := [.notice .outdated] } taker later) :
    Stage now registry state fresh later := by
  have only {other : Nat} {caller : Caller}
      (isCaller : callers[other]? = some caller)
      (comesFurther : caller ≠ .waiting caller.link) :
      other = place := by
    by_cases same : other = place
    · exact same
    · obtain ⟨link, rfl⟩ := waiting other caller same isCaller
      exact (comesFurther rfl).elim
  cases step with
  | pass isWaiting free isFresh =>
      cases free _ (List.mem_of_getElem? isRefreshing)
  | enter isWaiting free isStale =>
      cases free _ (List.mem_of_getElem? isRefreshing)
  | leave isLeaving =>
      rename_i leaving leavingLink
      have samePlace := only isLeaving (by simp)
      subst samePlace
      have given :
          ({ registry, state, callers, events := [.notice .outdated] } :
                Scene σ).leave leaving leavingLink fetcher now =
            { registry := fresh.registry
              state := fresh.state
              callers := callers.set leaving (.cleaning leavingLink fresh.result)
              events := fresh.events } := by
        rw [← isAnswer]
        simp [Scene.leave, Registry.ensureFresh, stale]
      rw [given, refreshes.result]
      refine .after ?_ refreshes.fetches
      intro caller member
      obtain ⟨other, isCaller⟩ := List.mem_iff_getElem?.mp member
      by_cases isLeaver : other = leaving
      · subst isLeaver
        have within : other < callers.length :=
          (List.getElem?_eq_some_iff.mp isRefreshing).1
        rw [List.getElem?_set_self within, Option.some.injEq] at isCaller
        rw [← isCaller]
        exact .cleaning leavingLink
      · rw [List.getElem?_set_ne (Ne.symm isLeaver)] at isCaller
        obtain ⟨link, rfl⟩ := waiting other caller isLeaver isCaller
        exact .waiting link
  | finish isCleaning =>
      have samePlace := only isCleaning (by simp)
      subst samePlace
      rw [isRefreshing] at isCleaning
      cases isCleaning

/-- After the first caller has had the lock, the rules are fresh for all others. -/
private theorem step_after
    (refreshes : Refreshes fetcher now registry fresh)
    {events : List Event}
    (served : ∀ caller ∈ callers, caller.IsServed fresh.registry.providers)
    (fetches : fetchesIn events = if registry.isStale now then 1 else 0)
    (step :
      Step fetcher now
        { registry := fresh.registry, state := fresh.state, callers, events }
        taker later) :
    Stage now registry state fresh later := by
  cases step with
  | pass isWaiting free isFresh =>
      exact .after (isServed_set served (.cleaning _) _) fetches
  | enter isWaiting free stale =>
      rw [refreshes.isFresh] at stale
      cases stale
  | leave isRefreshing =>
      cases served _ (List.mem_of_getElem? isRefreshing)
  | finish isCleaning =>
      cases served _ (List.mem_of_getElem? isCleaning)
      refine .after (isServed_set served (.done _) _) ?_
      rw [fetchesIn_append, fetchesIn_cleanedWith, fetches, Nat.add_zero]

/-- No step leads out of the stages. -/
theorem step
    (isAnswer : registry.ensureFresh fetcher now state = fresh)
    (refreshes : Refreshes fetcher now registry fresh)
    (stage : Stage now registry state fresh scene)
    (step : Step fetcher now scene taker later) :
    Stage now registry state fresh later := by
  cases stage with
  | before waiting =>
      exact step_before isAnswer waiting step
  | during stale isRefreshing waiting =>
      exact step_during isAnswer refreshes stale isRefreshing waiting step
  | after served fetches =>
      exact step_after refreshes served fetches step

end Stage

/-- A caller keeps its link through any step. -/
private theorem link_put
    {callers : List Caller}
    {place : Nat}
    {before after : Caller}
    (isBefore : callers[place]? = some before)
    (sameLink : after.link = before.link) :
    (callers.set place after).map Caller.link = callers.map Caller.link := by
  rw [List.map_set, sameLink]
  refine List.ext_getElem? fun other => ?_
  by_cases isPlace : place = other
  · subst isPlace
    have within : place < (callers.map Caller.link).length := by
      simpa using (List.getElem?_eq_some_iff.mp isBefore).1
    rw [List.getElem?_set_self within, List.getElem?_map, isBefore]
    rfl
  · rw [List.getElem?_set_ne isPlace]

/-- No step changes which links there are. -/
theorem Step.links_eq
    {σ : Type}
    {fetcher : Fetcher σ}
    {now : Nat}
    {scene later : Scene σ}
    {taker : Option Nat}
    (step : Step fetcher now scene taker later) :
    later.callers.map Caller.link = scene.callers.map Caller.link := by
  cases step with
  | pass waits free fresh =>
      exact link_put waits rfl
  | enter waits free stale =>
      exact link_put waits rfl
  | leave refreshes =>
      exact link_put refreshes rfl
  | finish cleans =>
      exact link_put cleans rfl

namespace Interleaves

variable {σ : Type} {fetcher : Fetcher σ} {now : Nat} {registry : Registry}
  {state : σ} {fresh : Answer σ (Except Failure (List Provider))}
  {links : List String} {order : List Nat} {scene : Scene σ}

/-- Callers that start from an opening are always at one of the stages. -/
theorem stage
    (isAnswer : registry.ensureFresh fetcher now state = fresh)
    (refreshes : Refreshes fetcher now registry fresh)
    (leads :
      Interleaves fetcher now (.opening registry state links) order scene) :
    Stage now registry state fresh scene := by
  induction leads with
  | refl =>
      refine .before fun caller member => ?_
      obtain ⟨link, -, rfl⟩ := List.mem_map.mp member
      exact ⟨link, rfl⟩
  | step leads step inductionHypothesis =>
      exact inductionHypothesis.step isAnswer refreshes step

/-- Callers keep their links. -/
theorem links_eq
    (leads :
      Interleaves fetcher now (.opening registry state links) order scene) :
    scene.callers.map Caller.link = links := by
  induction leads with
  | refl =>
      simp [Scene.opening, Function.comp_def, Caller.link]
  | step leads step inductionHypothesis =>
      rw [step.links_eq, inductionHypothesis]

end Interleaves

/--
Callers that share a registry, one of them at least, get the same results and
leave the same registry behind, in whatever order they take the lock and however
their steps interleave. Rules are fetched once if they were stale at first, and
not at all otherwise. Every order in which callers could take the lock is one in
which they can.
-/
theorem lock_order_irrelevant
    {config : Config}
    {interval : Nat}
    {seed : List Provider}
    {texts : List String}
    {registry : Registry}
    (leads : LeadsTo (initial config interval seed) texts registry)
    (positive : 0 < interval)
    {σ : Type}
    (fetcher : Fetcher σ)
    (now : Nat)
    (state : σ)
    {links : List String}
    (someone : links ≠ [])
    (hasProviders :
      registry.providers ≠ [] ∨
        (registry.refresh fetcher now state).registry.providers ≠ []) :
    let fresh := registry.ensureFresh fetcher now state
    (∀ {order : List Nat} {scene : Scene σ},
      Interleaves fetcher now (.opening registry state links) order scene →
      scene.IsOver →
      scene.callers =
          links.map (fun link =>
            .done link
              (.ok (String.ofList
                (clean fresh.registry.providers (Text.trim link).toList)))) ∧
        scene.registry = fresh.registry ∧
        scene.state = fresh.state ∧
        fetchesIn scene.events = if registry.isStale now then 1 else 0) ∧
      ∀ {order : List Nat},
        order.Perm (List.range links.length) →
        ∃ scene,
          Interleaves fetcher now (.opening registry state links) order scene ∧
            scene.IsOver := by
  intro fresh
  have hasInterval : 0 < registry.interval := by
    rw [leads.interval_eq]
    exact positive
  have refreshes : Refreshes fetcher now registry fresh :=
    refreshes_ensureFresh fetcher now registry state
      (leads.sound (sound_initial config interval seed)) hasInterval hasProviders
  have isAnswer : registry.ensureFresh fetcher now state = fresh := rfl
  clear_value fresh
  refine ⟨?_, ?_⟩
  · intro order scene interleaves isOver
    have sameLinks := interleaves.links_eq
    cases interleaves.stage isAnswer refreshes with
    | before waiting =>
        rename_i callers
        have hasCallers : callers ≠ [] := by
          rintro rfl
          exact someone sameLinks.symm
        obtain ⟨caller, member⟩ := List.exists_mem_of_ne_nil callers hasCallers
        obtain ⟨link, rfl⟩ := waiting caller member
        cases isOver _ member
    | during stale isRefreshing waiting =>
        cases isOver _ (List.mem_of_getElem? isRefreshing)
    | after served fetches =>
        rename_i callers events
        refine ⟨?_, rfl, rfl, fetches⟩
        rw [← sameLinks, List.map_map]
        refine (List.map_id' callers).symm.trans (List.map_congr_left ?_)
        intro caller member
        cases served caller member with
        | waiting link =>
            cases isOver _ member
        | cleaning link =>
            cases isOver _ member
        | done link =>
            rw [cleanedWith_of_ne_nil link refreshes.hasProviders]
            rfl
  · intro order isOrder
    obtain ⟨scene, interleaves, isOver, -⟩ :=
      exists_interleaving fetcher now registry state links isOrder
    exact ⟨scene, interleaves, isOver⟩

/-- Of two callers at a new registry the second one takes the lock first. -/
theorem lock_order_irrelevant_of_two_callers :
    let fresh := initial { Config.standard with retry := .never } 5 []
    let text :=
      "\x7b\"providers\":\x7b\"a\":\x7b\"urlPattern\":\"http\",\"rules\":[\"x\"]\x7d\x7d\x7d"
    let links := ["http://a.test/?x=1", " http://b.test/?y=2&x=1"]
    ∃ scene,
      Interleaves scripted 7 (.opening fresh [.ok text] links) [1, 0] scene ∧
        fetchesIn scene.events = 1 ∧
        scene.callers =
          [.done "http://a.test/?x=1" (.ok "http://a.test/"),
            .done " http://b.test/?y=2&x=1" (.ok "http://b.test/?y=2")] := by
  intro fresh text links
  have hasProviders :
      (fresh.refresh scripted 7 [.ok text]).registry.providers ≠ [] := by
    rw [← List.isEmpty_eq_false_iff]
    decide +kernel
  have stale : fresh.isStale 7 = true := rfl
  have leads : LeadsTo fresh [] fresh := .refl
  have someone : links ≠ [] := by
    simp [links]
  have isOrder : [1, 0].Perm (List.range links.length) := by
    decide
  have irrelevant :=
    lock_order_irrelevant leads (by decide) scripted 7 [.ok text] someone
      (.inr hasProviders)
  obtain ⟨scene, interleaves, isOver⟩ := irrelevant.2 isOrder
  obtain ⟨results, -, -, fetches⟩ := irrelevant.1 interleaves isOver
  refine ⟨scene, interleaves, fetches.trans (if_pos stale), ?_⟩
  have cleaned :
      links.map (fun link =>
          String.ofList
            (clean (fresh.ensureFresh scripted 7 [.ok text]).registry.providers
              (Text.trim link).toList)) =
        ["http://a.test/", "http://b.test/?y=2"] := by
    decide +kernel
  simp only [links, List.map_cons, List.map_nil, List.cons.injEq, and_true]
    at cleaned
  rw [results]
  simp only [links, List.map_cons, List.map_nil, cleaned]

end Untrack.Cleaner
