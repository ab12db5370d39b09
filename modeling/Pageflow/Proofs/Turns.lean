/-
  Pageflow.Proofs.Turns — the loop that maps parameters.

  The rounds map what is declared, then all that this has added, and so on.  Seen place by place
  they are one loop: each turn maps the activity at the next place, and puts the makers that this
  adds at the end of the arena that the loop goes through.  The loop comes to an end if the shared
  parameters can be ranked, and then it has made one turn for each place of the arena; that turn
  maps the activity which stands there, and no turn before or after it touches this place.

  Main definitions: `mapTurn`, `turned` and `MappedOnce`.
  Main statement: `assembles_in_turns`.
-/
import Pageflow.Proofs.Ranking
import Pageflow.Proofs.Renaming

namespace Pageflow.Flow

/-! ## §1. Turns. -/

/-- One turn of the loop: the activity at this place is mapped, and what is added for it goes to
the end of the arena. -/
def mapTurn (m : Mapping) (arena : List Activity) (i : Nat) : List Activity :=
  match arena[i]? with
  | none => arena
  | some a =>
    let (b, added) := (mapActivity m a { place := 0, activities := arena }).value
    added.activities.set i b

/-- The arena after that many turns, which go through the places in order. -/
def turned (m : Mapping) (arena : List Activity) : Nat → List Activity
  | 0 => arena
  | n + 1 => mapTurn m (turned m arena n) n

section Turn

variable {m : Mapping} {arena : List Activity} {a : Activity} {i j : Nat}

theorem mapTurn_of_none (h : arena[i]? = none) : mapTurn m arena i = arena := by
  rw [mapTurn, h]

theorem mapTurn_of_some {b : Activity} {more : List Activity} (h : arena[i]? = some a)
    (adds : Adds m a ⟨0, arena⟩ b more) : mapTurn m arena i = (arena ++ more).set i b := by
  simp only [mapTurn, h, adds.value]
  rfl

/-- A turn leaves the other places as they are. -/
theorem mapTurn_of_ne (unmapped : ∀ a, arena[i]? = some a → IsUnmapped a) (hj : j ≠ i)
    (h : arena[j]? = some a) : (mapTurn m arena i)[j]? = some a := by
  cases hi : arena[i]? with
  | none => rw [mapTurn_of_none hi, h]
  | some c =>
    obtain ⟨b, more, adds⟩ := mapActivity_adds m (unmapped c hi) ⟨0, arena⟩
    obtain ⟨hlt, _⟩ := List.getElem?_eq_some_iff.mp h
    rw [mapTurn_of_some hi adds, List.getElem?_set_ne (Ne.symm hj),
      List.getElem?_append_left hlt, h]

/-- What stands at another place after a turn stood there before, or has been added. -/
theorem mapTurn_unmapped (unmapped : ∀ j a, i ≤ j → arena[j]? = some a → IsUnmapped a)
    (hj : i < j) (h : (mapTurn m arena i)[j]? = some a) : IsUnmapped a := by
  cases hi : arena[i]? with
  | none =>
    rw [mapTurn_of_none hi] at h
    exact unmapped j a (by omega) h
  | some c =>
    obtain ⟨b, more, adds⟩ := mapActivity_adds m (unmapped i c (Nat.le_refl i) hi) ⟨0, arena⟩
    rw [mapTurn_of_some hi adds, List.getElem?_set_ne (by omega)] at h
    by_cases hlt : j < arena.length
    · rw [List.getElem?_append_left hlt] at h
      exact unmapped j a (by omega) h
    · rw [List.getElem?_append_right (by omega)] at h
      exact isUnmapped_of_makesFor (adds.made a (List.mem_of_getElem? h))

end Turn

/-! ## §2. What all turns leave. -/

section Turned

variable {m : Mapping} {arena : List Activity}

/-- Behind the turns made so far nothing is mapped. -/
theorem turned_unmapped (h : ∀ a ∈ arena, IsUnmapped a) :
    ∀ n j a, n ≤ j → (turned m arena n)[j]? = some a → IsUnmapped a
  | 0, _, a, _, ha => h a (List.mem_of_getElem? ha)
  | n + 1, _, _, hj, ha => mapTurn_unmapped (turned_unmapped h n) hj ha

/-- Turns for other places leave what stands at a place. -/
theorem turned_of_ne (h : ∀ a ∈ arena, IsUnmapped a) {n j i : Nat} {a : Activity}
    (ha : (turned m arena n)[i]? = some a) (hnj : n ≤ j)
    (others : ∀ turn, n ≤ turn → turn < j → i ≠ turn) : (turned m arena j)[i]? = some a := by
  induction hnj with
  | refl => exact ha
  | step hnj ih =>
    rename_i j
    have before := ih fun turn hle hlt => others turn hle (by omega)
    exact mapTurn_of_ne (fun c hc => turned_unmapped h j j c (Nat.le_refl j) hc)
      (others j hnj (Nat.lt_succ_self j)) before

/-- Once the loop has reached the end of the arena, turns change nothing. -/
theorem turned_of_length_le {n : Nat} (h : (turned m arena n).length ≤ n) {j : Nat}
    (hnj : n ≤ j) : turned m arena j = turned m arena n := by
  induction hnj with
  | refl => rfl
  | step hnj ih =>
    rename_i j
    rw [turned, ih]
    exact mapTurn_of_none (List.getElem?_eq_none_iff.mpr (h.trans hnj))

/-- The loop maps place `i` in its turn, from `a`, which is not mapped, to `b`; this is all that
happens there. -/
structure MappedOnce (m : Mapping) (arena : List Activity) (i : Nat) (a b : Activity) : Prop where
  unmapped : IsUnmapped a
  mapsTo : MapsTo m a b
  mapped : (mapActivity m a { place := 0, activities := turned m arena i }).value.1 = b
  found : (turned m arena i)[i]? = some a
  /-- As long as its turn has not come, `a` stands there, from when it is declared or added. -/
  before : ∀ n ≤ i, ∀ x, (turned m arena n)[i]? = some x → x = a
  after : ∀ n, i < n → (turned m arena n)[i]? = some b

/-- **A place that the loop comes to is mapped once.** -/
theorem mappedOnce (h : ∀ a ∈ arena, IsUnmapped a) {i : Nat}
    (hi : i < (turned m arena i).length) : ∃ a b, MappedOnce m arena i a b := by
  have found := List.getElem?_eq_getElem hi
  have unmapped := turned_unmapped h i i _ (Nat.le_refl i) found
  obtain ⟨b, more, adds⟩ := mapActivity_adds m unmapped ⟨0, turned m arena i⟩
  have turn : (turned m arena (i + 1))[i]? = some b := by
    rw [turned, mapTurn_of_some found adds]
    refine List.getElem?_set_self ?_
    rw [List.length_append]
    omega
  refine ⟨_, b, unmapped, adds.mapsTo, by rw [adds.value], found, ?_, ?_⟩
  · intro n hn x hx
    have still := turned_of_ne h hx hn fun turn _ hlt => by omega
    exact Option.some.inj (still.symm.trans found)
  · intro n hn
    exact turned_of_ne h turn hn fun turn hle _ => by omega

end Turned

/-! ## §3. Turns and rounds. -/

section Rounds

variable {m : Mapping} {arena : List Activity}

/-- What mapping an activity gives depends only on how many there are before it. -/
theorem Adds.of_next {a b : Activity} {start start' : Additions} {more : List Activity}
    (h : Adds m a start b more) (hnext : start'.next = start.next) : Adds m a start' b more where
  value := by
    rw [h.elsewhere m start' (.refl m a.service)]
    -- makers are moved by the difference of the two places, and there is none
    refine Prod.ext (Activity.rename_eq_self ?_) rfl
    intro k hk
    have := (h.makers k hk).1
    unfold moved
    omega
  mapsTo := h.mapsTo
  made := h.made
  makers := by
    rw [hnext]
    exact h.makers
  elsewhere m' start'' agrees := by
    rw [h.elsewhere m' start'' agrees]
    unfold moved
    rw [hnext]

/-- **A round is a turn for each of its activities**: those before it, `done`, are mapped, and
`behind` stand behind it. -/
theorem turned_round :
    ∀ (round done behind : List Activity) (start : Additions) (n : Nat),
      (∀ a ∈ round, IsUnmapped a) → done.length = n →
      turned m arena n = done ++ round ++ behind →
      start.next = n + round.length + behind.length →
      ∃ more, (mapRound m start round).value.2 = start.pushAll more
        ∧ turned m arena (n + round.length)
          = done ++ (mapRound m start round).value.1 ++ (behind ++ more)
  | [], done, behind, start, n, _, _, h, _ =>
      ⟨[], start.pushAll_nil.symm, by rw [List.append_nil]; exact h⟩
  | a :: rest, done, behind, start, n, unmapped, hn, h, hnext => by
      obtain ⟨b, more, adds⟩ := mapActivity_adds m (unmapped a List.mem_cons_self) start
      rw [List.length_cons] at hnext
      have here : (turned m arena n)[n]? = some a := by
        rw [h, List.append_assoc, List.getElem?_append_right (by omega), hn, Nat.sub_self]
        rfl
      have length : (turned m arena n).length = start.next := by
        rw [h, hnext]
        simp only [List.length_append, List.length_cons, hn]
      -- its turn adds `b` to what is done; what is made for it comes behind everything else
      have turn : turned m arena (n + 1) = (done ++ [b]) ++ rest ++ (behind ++ more) := by
        have adds' : Adds m a ⟨0, turned m arena n⟩ b more :=
          adds.of_next ((Nat.zero_add _).trans length)
        rw [turned, mapTurn_of_some here adds', h, ← hn]
        simp
      obtain ⟨more', hmore', turns⟩ := turned_round rest (done ++ [b]) (behind ++ more)
        (start.pushAll more) (n + 1) (fun c hc => unmapped c (List.mem_cons_of_mem _ hc))
        (by rw [List.length_append, hn]; rfl) turn
        (by rw [Additions.next_pushAll, hnext, List.length_append]; omega)
      simp only [mapRound, Noted.value_bind, Noted.value_pure, adds.value]
      refine ⟨more ++ more', ?_, ?_⟩
      · rw [hmore', Additions.pushAll, Additions.pushAll, Additions.pushAll, List.append_assoc]
      · rw [List.length_cons, Nat.add_comm rest.length 1, ← Nat.add_assoc, turns]
        simp

/-- **The rounds make the turns of the loop.** -/
theorem turned_rounds :
    ∀ (rounds : Nat) (done before after : List Activity) (n : Nat),
      (∀ a ∈ before, IsUnmapped a) → done.length = n → turned m arena n = done ++ before →
      (mapRounds m rounds (n + before.length) before).value = some after →
      turned m arena (n + after.length) = done ++ after
  | rounds, done, [], after, n, _, _, h, hafter => by
      obtain rfl : [] = after := by
        cases rounds <;> exact Option.some.inj hafter
      exact h
  | 0, _, a :: rest, after, _, _, _, _, hafter => by contradiction
  | rounds + 1, done, a :: rest, after, n, unmapped, hn, h, hafter => by
      simp only [mapRounds, Noted.value_bind, Noted.value_pure, Option.map_eq_some_iff] at hafter
      obtain ⟨behind, hbehind, rfl⟩ := hafter
      obtain ⟨_, mapped⟩ := mapRound_mapped m (a :: rest) { place := n + (a :: rest).length }
        fun c hc => (unmapped c hc).makers
      obtain ⟨_, only⟩ := mapRound_mapsTo m (a :: rest) { place := n + (a :: rest).length }
        unmapped
      rw [← List.append_nil (done ++ a :: rest)] at h
      obtain ⟨more, hmore, turns⟩ := turned_round (a :: rest) done []
        { place := n + (a :: rest).length } n unmapped hn h rfl
      have length := mapped.length_eq
      generalize (mapRound m { place := n + (a :: rest).length } (a :: rest)).value = round
        at hbehind only hmore turns length
      obtain ⟨mapped, added⟩ := round
      -- the next round starts with what this one has added
      obtain rfl : added = _ := hmore
      have unmapped' : ∀ c ∈ more, IsUnmapped c := by
        intro c hc
        obtain ⟨a', _, made⟩ := (only c hc).resolve_left List.not_mem_nil
        exact isUnmapped_of_makesFor made
      have rest := turned_rounds rounds (done ++ mapped) more behind (n + (a :: rest).length)
        unmapped' (by rw [List.length_append, hn, length]) turns hbehind
      rw [List.length_append, ← Nat.add_assoc, ← length, rest, List.append_assoc]

end Rounds

/-! ## §4. Building a flow. -/

variable {m : Materials} {page : Document.Page} {process : Document.Process}

/-- Nothing that is declared is mapped before the loop starts. -/
theorem declared_unmapped (m : Materials) (page : Document.Page) (process : Document.Process) :
    ∀ a ∈ (declared m page process).value.arena, IsUnmapped a :=
  fun _ ha => (outline_of_mem_declared ha).1

namespace IsBuilt

variable {flow : Flow} (hb : IsBuilt m page process flow)
include hb

/-- A built flow is what the turns leave. -/
theorem turned_eq :
    turned (mappingOf m page process) (declared m page process).value.arena flow.arena.length
      = flow.arena := by
  obtain ⟨rounds, after, hafter, rfl⟩ := hb
  have unmapped := declared_unmapped m page process
  generalize (declared m page process).value = before at hafter unmapped ⊢
  rw [← Nat.zero_add before.arena.length] at hafter
  have start : turned (mappingOf m page process) before.arena 0 = [] ++ before.arena := rfl
  have loop := turned_rounds rounds [] before.arena after 0 unmapped rfl start hafter
  rwa [Nat.zero_add, List.nil_append] at loop

/-- As long as there is a turn to come, the end of the arena has not been reached. -/
theorem lt_length_turned (n : Nat) :
    n < (turned (mappingOf m page process) (declared m page process).value.arena n).length
      ↔ n < flow.arena.length := by
  have loop := hb.turned_eq
  constructor
  · intro hn
    by_contra hle
    rw [turned_of_length_le (by rw [loop]) (Nat.le_of_not_lt hle), loop] at hn
    exact hle hn
  · intro hn
    by_contra hle
    have stopped := turned_of_length_le (Nat.le_of_not_lt hle) (Nat.le_of_lt hn)
    rw [loop] at stopped
    rw [← stopped] at hle
    exact hle hn

/-- What stands at a place has been mapped in the turn for this place. -/
theorem exists_mappedOnce {i : Nat} {b : Activity} (h : flow.arena[i]? = some b) :
    ∃ a, MappedOnce (mappingOf m page process) (declared m page process).value.arena i a b := by
  obtain ⟨hi, _⟩ := List.getElem?_eq_some_iff.mp h
  obtain ⟨a, b', once⟩ :=
    mappedOnce (declared_unmapped m page process) ((hb.lt_length_turned i).mpr hi)
  have last := once.after flow.arena.length hi
  rw [hb.turned_eq, h] at last
  rw [Option.some.inj last]
  exact ⟨a, once⟩

end IsBuilt

/-- **If the shared parameters can be ranked, a flow is built, and the loop maps every place of
its arena once**: it makes a turn for each place and stops, whether an activity has been declared
there or was added by an earlier turn. -/
theorem assembles_in_turns {rank : String → String → Nat}
    (ranked : (mappingOf m page process).IsRanked rank) :
    ∃ flow, (assemble? m page process).value = some flow
      ∧ flow = { (declared m page process).value with
          arena := turned (mappingOf m page process) (declared m page process).value.arena
            flow.arena.length }
      ∧ (∀ n, n < (turned (mappingOf m page process)
            (declared m page process).value.arena n).length ↔ n < flow.arena.length)
      ∧ ∀ i < flow.arena.length, ∃ a b,
          MappedOnce (mappingOf m page process) (declared m page process).value.arena i a b
            ∧ flow.arena[i]? = some b := by
  obtain ⟨flow, hflow⟩ := Option.isSome_iff_exists.mp (assemble_isSome ranked)
  have hb := isBuilt_of_assemble hflow
  refine ⟨flow, hflow, ?_, hb.lt_length_turned, ?_⟩
  · rw [hb.turned_eq]
    obtain ⟨_, _, _, rfl⟩ := hb
    rfl
  · intro i hi
    have hi := List.getElem?_eq_getElem hi
    obtain ⟨a, once⟩ := hb.exists_mappedOnce hi
    exact ⟨a, _, once, hi⟩

/-! ## §5. A mint. -/

/-- A generated value without definitions of its own. -/
def madeBy (function : String) : Document.Generate := { moduleFunction := some function }

/-- A die is cut in metal that is smelted for it. -/
def madeDie : Document.Generate :=
  { moduleFunction := some "cut", parameters := [("metal", { generate := madeBy "smelt" })] }

/-- What a mint shares. -/
def mintShared : Dict Document.SharedParameter :=
  [("seal", .definition { generate := madeBy "carve" }),
    ("die", .definition { generate := madeDie }),
    ("coin", .definition { generate := madeBy "strike" })]

def mintProcess : Document.Process where
  services := [("mint",
    { activities := [("issue", { moduleFunction := some "pay" })], parameters := mintShared })]

/-- A coin is struck with the die; metal and die both need the seal. -/
def mintMaterials : Materials where
  functions := [("pay", ⟨"mint", "pay", ["coin"]⟩), ("strike", ⟨"mint", "strike", ["die"]⟩),
    ("cut", ⟨"mint", "cut", ["metal", "seal"]⟩), ("smelt", ⟨"mint", "smelt", ["seal"]⟩),
    ("carve", ⟨"mint", "carve", []⟩)]
  bridges := []

abbrev mintMapping : Mapping := mappingOf mintMaterials {} mintProcess

/-- First the seal, then the die, then the coin. -/
def mintRank (_ name : String) : Nat :=
  if name = "coin" then 2 else if name = "die" then 1 else 0

theorem mintMapping_shared? {service name : String} {p : Document.Parameter}
    {g : Document.Generate} (h : mintMapping.shared? service name = some p)
    (hg : generated? p = some g) :
    service = "mint" ∧ (name = "seal" ∧ g = madeBy "carve" ∨ name = "die" ∧ g = madeDie
      ∨ name = "coin" ∧ g = madeBy "strike") := by
  obtain ⟨maps, shared, entry, hmaps, hshared, hentry, rfl⟩ := shared?_cases h
  have maps' : (service, maps) ∈ [("mint", [mintShared]), ("process", [[], []])] :=
    Dict.mem_of_get? hmaps
  have entry' := Dict.mem_of_get? hentry
  simp only [List.mem_cons, Prod.mk.injEq, List.not_mem_nil, or_false] at maps'
  obtain ⟨rfl, rfl⟩ | ⟨rfl, rfl⟩ := maps'
  · rw [List.mem_singleton.mp hshared] at entry'
    simp only [mintShared, List.mem_cons, Prod.mk.injEq, List.not_mem_nil, or_false] at entry'
    refine ⟨rfl, ?_⟩
    obtain ⟨rfl, rfl⟩ | ⟨rfl, rfl⟩ | ⟨rfl, rfl⟩ := entry'
    · exact .inl ⟨rfl, (Option.some.inj hg).symm⟩
    · exact .inr (.inl ⟨rfl, (Option.some.inj hg).symm⟩)
    · exact .inr (.inr ⟨rfl, (Option.some.inj hg).symm⟩)
  · -- nothing is shared in the process
    simp only [List.mem_cons, List.not_mem_nil, or_false, or_self] at hshared
    rw [hshared] at entry'
    contradiction

theorem enters_smelt {needed : String} (h : Enters mintMapping "mint" (madeBy "smelt") needed) :
    needed = "seal" := by
  cases h with
  | shared asked _ _ => exact List.mem_singleton.mp asked
  | nested _ own _ _ => contradiction

theorem enters_madeDie {needed : String} (h : Enters mintMapping "mint" madeDie needed) :
    needed = "seal" := by
  cases h with
  | shared asked own _ =>
    rcases List.mem_cons.mp asked with rfl | asked
    · contradiction
    · exact List.mem_singleton.mp asked
  | nested asked own made inner =>
    -- only the metal has a definition of its own
    rcases List.mem_cons.mp asked with rfl | asked
    · obtain rfl := Option.some.inj own
      obtain rfl := Option.some.inj made
      exact enters_smelt inner
    · rw [List.mem_singleton.mp asked] at own
      contradiction

theorem mintMapping_isRanked : mintMapping.IsRanked mintRank := by
  intro service name p g needed hp hg h
  obtain ⟨rfl, ⟨rfl, rfl⟩ | ⟨rfl, rfl⟩ | ⟨rfl, rfl⟩⟩ := mintMapping_shared? hp hg
  · cases h <;> contradiction
  · rw [enters_madeDie h]
    decide
  · cases h with
    | shared asked _ _ =>
      rw [List.mem_singleton.mp asked]
      decide
    | nested _ own _ _ => contradiction

/-- The mint is built in six turns: one activity is declared, and the coin, the die, its metal and
a seal for each of these two are made for it. -/
theorem assembles_in_turns_mint :
    mintMapping.IsRanked mintRank
    ∧ ∃ flow, (assemble? mintMaterials {} mintProcess).value = some flow
      ∧ flow.arena.map (fun a => a.strategy.map Strategy.ownParameterNames)
        = [some ["coin"], some ["die"], some ["metal", "seal"], some ["seal"], some [], some []]
      ∧ ∀ i < 6, ∃ a b, MappedOnce mintMapping (declared mintMaterials {} mintProcess).value.arena i
          a b ∧ flow.arena[i]? = some b := by
  obtain ⟨flow, hflow, _, _, once⟩ := assembles_in_turns mintMapping_isRanked
  have six : ((assemble? mintMaterials {} mintProcess).value.map fun flow =>
      flow.arena.map fun a => a.strategy.map Strategy.ownParameterNames)
      = some [some ["coin"], some ["die"], some ["metal", "seal"], some ["seal"], some [],
        some []] := by
    decide +kernel
  rw [hflow, Option.map_some, Option.some.injEq] at six
  refine ⟨mintMapping_isRanked, flow, hflow, six, ?_⟩
  intro i hi
  refine once i ?_
  have length := congrArg List.length six
  rw [List.length_map] at length
  rw [length]
  exact hi

end Pageflow.Flow
