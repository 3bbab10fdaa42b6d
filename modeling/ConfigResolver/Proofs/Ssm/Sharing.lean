import ConfigResolver.Ssm.ClientCache
import Mathlib.Logic.Function.Basic

/-!
# Callers that share clients

Any number of calls ask a cache for clients at the same time. Each call goes on by itself: it looks
its client up, makes one where there is none, and offers what it made. Between two steps of a call
the others may take theirs, and the cache may be cleared. `play` is what such moves come to in any
order, and the sights that it gives are what callers see of it: clients that calls return, and
clearings.

Between two clearings the cache only grows, and whatever a call returned is what the cache then
holds under its connection (`play_keeps`). Main statement: `play_coherent`.
-/

namespace ConfigResolver.Ssm

namespace ClientCache

variable (cache : ClientCache) (c : Connection) (client : Client)

@[simp] theorem find?_empty : empty.find? c = none := rfl

/-- A client that is made is not shared yet. -/
@[simp] theorem find?_make (c' : Connection) : (cache.make c).2.find? c' = cache.find? c' := rfl

@[simp] theorem clients_make : (cache.make c).2.clients = cache.clients := rfl

@[simp] theorem connection_make : (cache.make c).1.connection = c := rfl

theorem keep_of_some {shared : Client} (h : cache.find? c = some shared) :
    cache.keep c client = (shared, cache) := by
  simp only [keep, h]

theorem keep_of_none (h : cache.find? c = none) :
    cache.keep c client = (client, { cache with clients := (c, client) :: cache.clients }) := by
  simp only [keep, h]

/-- What comes back for a connection is shared for it from then on. -/
theorem find?_keep_self :
    (cache.keep c client).2.find? c = some (cache.keep c client).1 := by
  cases h : cache.find? c with
  | some shared => rw [keep_of_some cache c client h, h]
  | none =>
    rw [keep_of_none cache c client h]
    exact List.lookup_cons_self

/-- A client that is shared stays so, whatever is offered. -/
theorem find?_keep_of_some {c' : Connection} {shared : Client}
    (h : cache.find? c' = some shared) : (cache.keep c client).2.find? c' = some shared := by
  cases hc : cache.find? c with
  | some other => rw [keep_of_some cache c client hc, h]
  | none =>
    have hne : c' ≠ c := by
      rintro rfl
      cases h.symm.trans hc
    rw [keep_of_none cache c client hc, find?, List.lookup_cons, beq_eq_false_iff_ne.2 hne]
    exact h

theorem mem_clients_keep {entry : Connection × Client}
    (h : entry ∈ (cache.keep c client).2.clients) :
    entry ∈ cache.clients ∨ entry = (c, client) := by
  cases hc : cache.find? c with
  | some shared =>
    rw [keep_of_some cache c client hc] at h
    exact .inl h
  | none =>
    rw [keep_of_none cache c client hc] at h
    exact (List.mem_cons.1 h).symm

/-- What is under a connection is one of the entries. -/
theorem mem_of_find? {cache : ClientCache} {c : Connection} {client : Client}
    (h : cache.find? c = some client) : (c, client) ∈ cache.clients := by
  obtain ⟨before, after, hsplit, -⟩ := List.lookup_eq_some_iff.1 h
  rw [hsplit]
  simp

end ClientCache

/-! ## Moves -/

/-- How far a call for a client has come. -/
inductive Progress where
  /-- It has not looked its client up yet. -/
  | started
  /-- There was no client. -/
  | missed
  /-- It has made a client. -/
  | made (client : Client)
  /-- It has returned a client. -/
  | returned (client : Client)

namespace Progress

/-- How many steps a call has taken at least. -/
def steps : Progress → Nat
  | started => 0
  | missed => 1
  | made _ => 2
  | returned _ => 3

theorem steps_le (p : Progress) : p.steps ≤ 3 := by
  cases p <;> simp [steps]

end Progress

/-- A cache, and how far each call has come. -/
structure Scene (ι : Type) where
  /-- The cache. -/
  cache : ClientCache
  /-- The calls. -/
  progress : ι → Progress

/-- What can happen next. -/
inductive Move (ι : Type) where
  /-- A call takes its next step. -/
  | advance (call : ι)
  /-- The cache is cleared. -/
  | clear
deriving DecidableEq

/-- What is seen from outside. -/
inductive Sight (ι : Type) where
  /-- A call returned a client. -/
  | returned (call : ι) (client : Client)
  /-- The cache was cleared. -/
  | cleared

variable {ι : Type} [DecidableEq ι] {asked : ι → Connection}

namespace Scene

/-- Before any call was made for a client. -/
def start : Scene ι := ⟨.empty, fun _ ↦ .started⟩

/-- The scene with a new cache, and with one call further on. -/
def settle (scene : Scene ι) (cache : ClientCache) (i : ι) (p : Progress) : Scene ι :=
  ⟨cache, Function.update scene.progress i p⟩

/-- The next step of a call. One that has returned has none left. -/
def advance (asked : ι → Connection) (scene : Scene ι) (i : ι) : Scene ι × Option (Sight ι) :=
  match scene.progress i with
  | .started =>
    match scene.cache.find? (asked i) with
    | some client => (scene.settle scene.cache i (.returned client), some (.returned i client))
    | none => (scene.settle scene.cache i .missed, none)
  | .missed =>
    let (client, cache) := scene.cache.make (asked i)
    (scene.settle cache i (.made client), none)
  | .made client =>
    let (client, cache) := scene.cache.keep (asked i) client
    (scene.settle cache i (.returned client), some (.returned i client))
  | .returned _ => (scene, none)

/-- One move, and what is seen of it. -/
def move (asked : ι → Connection) (scene : Scene ι) : Move ι → Scene ι × Option (Sight ι)
  | .advance i => scene.advance asked i
  | .clear => ({ scene with cache := scene.cache.clear }, some .cleared)

/-- Moves one after the other, and what is seen of them. -/
def play (asked : ι → Connection) : List (Move ι) → Scene ι → Scene ι × List (Sight ι)
  | [], scene => (scene, [])
  | m :: moves, scene =>
    let (scene, sight) := scene.move asked m
    let (scene, sights) := play asked moves scene
    (scene, sight.toList ++ sights)

variable {scene : Scene ι} {i : ι} {client : Client}

@[simp] theorem cache_settle (cache : ClientCache) (p : Progress) :
    (scene.settle cache i p).cache = cache := rfl

@[simp] theorem progress_settle_self (cache : ClientCache) (p : Progress) :
    (scene.settle cache i p).progress i = p :=
  Function.update_self _ _ _

theorem progress_settle_of_ne (cache : ClientCache) (p : Progress) {j : ι} (h : j ≠ i) :
    (scene.settle cache i p).progress j = scene.progress j :=
  Function.update_of_ne h _ _

/-! ### What one step does -/

theorem advance_of_hit (h : scene.progress i = .started)
    (hfind : scene.cache.find? (asked i) = some client) : scene.advance asked i =
      (scene.settle scene.cache i (.returned client), some (.returned i client)) := by
  simp only [advance, h, hfind]

theorem advance_of_miss (h : scene.progress i = .started)
    (hfind : scene.cache.find? (asked i) = none) :
    scene.advance asked i = (scene.settle scene.cache i .missed, none) := by
  simp only [advance, h, hfind]

theorem advance_of_missed (h : scene.progress i = .missed) : scene.advance asked i =
    (scene.settle (scene.cache.make (asked i)).2 i (.made (scene.cache.make (asked i)).1),
      none) := by
  simp only [advance, h]

theorem advance_of_made (h : scene.progress i = .made client) : scene.advance asked i =
    (scene.settle (scene.cache.keep (asked i) client).2 i
        (.returned (scene.cache.keep (asked i) client).1),
      some (.returned i (scene.cache.keep (asked i) client).1)) := by
  simp only [advance, h]

theorem advance_of_returned (h : scene.progress i = .returned client) :
    scene.advance asked i = (scene, none) := by
  simp only [advance, h]

/-- A step of a call leaves what is shared as it is. A client that it returns is shared then. -/
theorem advance_keeps (asked : ι → Connection) (scene : Scene ι) (i : ι) :
    let out := scene.advance asked i
    (∀ c x, scene.cache.find? c = some x → out.1.cache.find? c = some x) ∧
      ∀ j x, out.2 = some (.returned j x) → out.1.cache.find? (asked j) = some x := by
  intro out
  cases h : scene.progress i with
  | started =>
    cases hfind : scene.cache.find? (asked i) with
    | some client =>
      simp only [out, advance_of_hit h hfind, cache_settle]
      refine ⟨fun c x ↦ id, ?_⟩
      rintro j x ⟨⟩
      exact hfind
    | none =>
      simp only [out, advance_of_miss h hfind, cache_settle]
      exact ⟨fun c x ↦ id, nofun⟩
  | missed =>
    simp only [out, advance_of_missed h, cache_settle, ClientCache.find?_make]
    exact ⟨fun c x ↦ id, nofun⟩
  | made client =>
    simp only [out, advance_of_made h, cache_settle]
    refine ⟨fun c x ↦ ClientCache.find?_keep_of_some _ _ _, ?_⟩
    rintro j x ⟨⟩
    exact ClientCache.find?_keep_self _ _ _
  | returned client =>
    simp only [out, advance_of_returned h]
    exact ⟨fun c x ↦ id, nofun⟩

/-! ### Built for what it is asked for -/

/-- Every client is for the connection that it is shared under, or that its call asks for. -/
structure Fits (asked : ι → Connection) (scene : Scene ι) : Prop where
  shared : ∀ entry ∈ scene.cache.clients, entry.2.connection = entry.1
  made : ∀ i client, scene.progress i = .made client → client.connection = asked i

omit [DecidableEq ι] in
theorem fits_start : Fits asked (start : Scene ι) where
  shared := nofun
  made := nofun

/-- A step may change what is shared and how far its own call has come. -/
theorem Fits.settle (h : Fits asked scene) {cache : ClientCache} {p : Progress}
    (hcache : ∀ entry ∈ cache.clients, entry.2.connection = entry.1)
    (hp : ∀ client, p = .made client → client.connection = asked i) :
    Fits asked (scene.settle cache i p) where
  shared := hcache
  made j client hj := by
    by_cases hji : j = i
    · subst hji
      rw [progress_settle_self] at hj
      exact hp client hj
    · rw [progress_settle_of_ne _ _ hji] at hj
      exact h.made j client hj

theorem Fits.advance (h : Fits asked scene) (i : ι) : Fits asked (scene.advance asked i).1 := by
  cases hi : scene.progress i with
  | started =>
    cases hfind : scene.cache.find? (asked i) with
    | some client =>
      rw [advance_of_hit hi hfind]
      exact h.settle h.shared nofun
    | none =>
      rw [advance_of_miss hi hfind]
      exact h.settle h.shared nofun
  | missed =>
    rw [advance_of_missed hi]
    refine h.settle h.shared ?_
    rintro client ⟨⟩
    rfl
  | made client =>
    rw [advance_of_made hi]
    refine h.settle (fun entry hentry ↦ ?_) nofun
    rcases ClientCache.mem_clients_keep _ _ _ hentry with hold | rfl
    · exact h.shared entry hold
    · exact h.made i client hi
  | returned client =>
    rw [advance_of_returned hi]
    exact h

theorem Fits.move (h : Fits asked scene) (m : Move ι) : Fits asked (scene.move asked m).1 := by
  cases m with
  | advance i => exact h.advance i
  | clear => exact ⟨nofun, h.made⟩

/-- What a call returns is for what it asked for. -/
theorem Fits.returned (h : Fits asked scene) {m : Move ι}
    (hsight : (scene.move asked m).2 = some (.returned i client)) :
    client.connection = asked i := by
  cases m with
  | clear => cases hsight
  | advance j =>
    have hfind := (advance_keeps asked scene j).2 i client hsight
    exact (h.advance j).shared _ (ClientCache.mem_of_find? hfind)

theorem Fits.play (h : Fits asked scene) (moves : List (Move ι)) :
    let out := play asked moves scene
    Fits asked out.1 ∧ ∀ i client, .returned i client ∈ out.2 → client.connection = asked i := by
  induction moves generalizing scene with
  | nil => exact ⟨h, nofun⟩
  | cons m moves ih =>
    obtain ⟨hfits, hreturned⟩ := ih (h.move m)
    refine ⟨hfits, fun i client hmem ↦ ?_⟩
    rcases List.mem_append.1 hmem with hnow | hlater
    · exact h.returned (Option.mem_toList.1 hnow)
    · exact hreturned i client hlater

/-! ### Between two clearings -/

/-- While the cache is not cleared, what is shared stays, and what is returned is shared. -/
theorem play_keeps (asked : ι → Connection) (moves : List (Move ι)) (scene : Scene ι) :
    let out := play asked moves scene
    .cleared ∉ out.2 →
      (∀ c x, scene.cache.find? c = some x → out.1.cache.find? c = some x) ∧
        ∀ i x, .returned i x ∈ out.2 → out.1.cache.find? (asked i) = some x := by
  induction moves generalizing scene with
  | nil => exact fun _ ↦ ⟨fun c x ↦ id, nofun⟩
  | cons m moves ih =>
    intro out hclear
    cases m with
    | clear => exact absurd (List.mem_append_left _ (List.mem_singleton.2 rfl)) hclear
    | advance i =>
      obtain ⟨hshared, hnow⟩ := advance_keeps asked scene i
      obtain ⟨hkept, hlater⟩ := ih (scene.advance asked i).1
        fun hmem ↦ hclear (List.mem_append_right _ hmem)
      refine ⟨fun c x hx ↦ hkept c x (hshared c x hx), fun j x hmem ↦ ?_⟩
      rcases List.mem_append.1 hmem with hmem | hmem
      · exact hkept _ x (hnow j x (Option.mem_toList.1 hmem))
      · exact hlater j x hmem

/-- Where the sights are cut the moves can be cut. -/
theorem exists_cut {moves : List (Move ι)} {scene : Scene ι} {seen later : List (Sight ι)}
    (h : (play asked moves scene).2 = seen ++ later) :
    ∃ first rest, moves = first ++ rest ∧ (play asked first scene).2 = seen ∧
      (play asked rest (play asked first scene).1).2 = later := by
  induction moves generalizing scene seen with
  | nil =>
    obtain ⟨rfl, rfl⟩ := List.append_eq_nil_iff.1 h.symm
    exact ⟨[], [], rfl, rfl, rfl⟩
  | cons m moves ih =>
    cases seen with
    | nil => exact ⟨[], m :: moves, rfl, rfl, h⟩
    | cons sight seen =>
      -- a move is seen once or not at all, so its sight is the first one or there is none yet
      cases hsight : (scene.move asked m).2 with
      | none =>
        have hplay : ∀ moves, (play asked (m :: moves) scene).2 =
            (play asked moves (scene.move asked m).1).2 := fun moves ↦ by
          simp [play, hsight]
        obtain ⟨first, rest, rfl, hfirst, hrest⟩ := ih ((hplay moves).symm.trans h)
        exact ⟨m :: first, rest, rfl, (hplay first).trans hfirst, hrest⟩
      | some now =>
        have hplay : ∀ moves, (play asked (m :: moves) scene).2 =
            now :: (play asked moves (scene.move asked m).1).2 := fun moves ↦ by
          simp [play, hsight]
        obtain ⟨rfl, htail⟩ := List.cons.inj ((hplay moves).symm.trans h)
        obtain ⟨first, rest, rfl, hfirst, hrest⟩ := ih htail
        exact ⟨m :: first, rest, rfl, by rw [hplay, hfirst], hrest⟩

/-! ### Calls come to their end -/

theorem progress_advance_of_ne (asked : ι → Connection) (scene : Scene ι) {i j : ι} (h : j ≠ i) :
    (scene.advance asked i).1.progress j = scene.progress j := by
  unfold advance
  split
  · split <;> exact progress_settle_of_ne _ _ h
  · exact progress_settle_of_ne _ _ h
  · exact progress_settle_of_ne _ _ h
  · rfl

/-- A step brings its call on, and the last one returns. -/
theorem steps_advance (asked : ι → Connection) {scene : Scene ι} {i : ι}
    (h : (scene.progress i).steps < 3) :
    let out := scene.advance asked i
    (scene.progress i).steps < (out.1.progress i).steps ∧
      ((out.1.progress i).steps = 3 → ∃ x, out.2 = some (.returned i x)) := by
  intro out
  cases hi : scene.progress i with
  | started =>
    cases hfind : scene.cache.find? (asked i) with
    | some client => simp [out, advance_of_hit hi hfind, Progress.steps]
    | none => simp [out, advance_of_miss hi hfind, Progress.steps]
  | missed => simp [out, advance_of_missed hi, Progress.steps]
  | made client => simp [out, advance_of_made hi, Progress.steps]
  | returned client =>
    rw [hi] at h
    exact absurd h (by simp [Progress.steps])

/-- A call that is on its way returns once it has taken three steps, whatever happens between. -/
theorem exists_returned {moves : List (Move ι)} {scene : Scene ι} {i : ι}
    (hway : (scene.progress i).steps < 3)
    (hmoves : 3 ≤ (scene.progress i).steps + moves.count (.advance i)) :
    ∃ x, .returned i x ∈ (play asked moves scene).2 := by
  induction moves generalizing scene with
  | nil =>
    rw [List.count_nil] at hmoves
    omega
  | cons m moves ih =>
    have hlater : (∃ x, .returned i x ∈ (play asked moves (scene.move asked m).1).2) →
        ∃ x, .returned i x ∈ (play asked (m :: moves) scene).2 := fun ⟨x, hx⟩ ↦
      ⟨x, List.mem_append_right _ hx⟩
    cases m with
    | clear =>
      rw [List.count_cons_of_ne (by simp)] at hmoves
      exact hlater (ih hway hmoves)
    | advance j =>
      by_cases hj : i = j
      · subst hj
        obtain ⟨hmore, hend⟩ := steps_advance asked hway
        rw [List.count_cons_self] at hmoves
        by_cases hlast : ((scene.advance asked i).1.progress i).steps < 3
        · exact hlater (ih hlast (by simp only [move]; omega))
        · obtain ⟨x, hx⟩ := hend (Nat.le_antisymm (Progress.steps_le _) (Nat.le_of_not_lt hlast))
          exact ⟨x, List.mem_append_left _ (Option.mem_toList.2 hx)⟩
      · have hsame := progress_advance_of_ne asked scene hj
        rw [List.count_cons_of_ne (by simpa using Ne.symm hj)] at hmoves
        exact hlater (ih (by rwa [move, hsame]) (by rwa [move, hsame]))

/-! ### A call without others -/

/-- The steps of a call that nothing comes between are the whole request. -/
theorem play_alone (h : scene.progress i = .started) :
    let out := play asked [.advance i, .advance i, .advance i] scene
    let request := scene.cache.request (asked i)
    out.1.cache = request.2.2 ∧ out.2 = [.returned i request.1] := by
  intro out request
  cases hfind : scene.cache.find? (asked i) with
  | some client =>
    have hrequest : request = (client, [], scene.cache) := by
      simp only [request, ClientCache.request, hfind]
    rw [hrequest]
    simp only [out, play, move, advance_of_hit h hfind,
      advance_of_returned (progress_settle_self _ _)]
    exact ⟨rfl, rfl⟩
  | none =>
    simp only [out, request, play, move, advance_of_miss h hfind,
      advance_of_missed (progress_settle_self _ _), advance_of_made (progress_settle_self _ _),
      ClientCache.request, hfind]
    exact ⟨rfl, rfl⟩

end Scene

/-! ## The cache under any order of moves -/

open Scene

/-- However calls take their steps, and whenever the cache is cleared between them: each client that
is shared is for the connection that it is shared under, and each one that a call returns is for the
connection that the call asked for. Calls for one connection that return between two clearings
return the same client, even if each of them had found none and made its own. A call that has taken
its three steps has returned, and if nothing came between them they are one request. -/
theorem play_coherent (asked : ι → Connection) (moves : List (Move ι)) :
    let out := play asked moves start
    (∀ entry ∈ out.1.cache.clients, entry.2.connection = entry.1) ∧
    (∀ i client, .returned i client ∈ out.2 → client.connection = asked i) ∧
    (∀ before between after, out.2 = before ++ between ++ after → .cleared ∉ between →
      ∀ i j x y, asked i = asked j → .returned i x ∈ between → .returned j y ∈ between → x = y) ∧
    (∀ i, 3 ≤ moves.count (.advance i) → ∃ client, .returned i client ∈ out.2) ∧
    ∀ i, out.1.progress i = .started →
      let alone := play asked [.advance i, .advance i, .advance i] out.1
      let request := out.1.cache.request (asked i)
      alone.1.cache = request.2.2 ∧ alone.2 = [.returned i request.1] := by
  intro out
  have hstart : Fits asked start := fits_start
  obtain ⟨hfits, hreturned⟩ := hstart.play moves
  refine ⟨hfits.shared, hreturned, ?_, fun i hi ↦ exists_returned (Nat.succ_pos 2) ?_,
    fun i hi ↦ play_alone hi⟩
  · intro before between after hsplit hclear i j x y hasked hx hy
    rw [List.append_assoc] at hsplit
    obtain ⟨first, rest, -, -, hrest⟩ := exists_cut hsplit
    obtain ⟨window, last, -, hwindow, -⟩ := exists_cut hrest
    obtain ⟨-, hkept⟩ := play_keeps asked window (play asked first start).1
      (by rwa [hwindow])
    rw [hwindow] at hkept
    have hi := hkept i x hx
    rw [hasked, hkept j y hy] at hi
    exact (Option.some.inj hi).symm
  · rw [start, Progress.steps]
    omega

end ConfigResolver.Ssm
