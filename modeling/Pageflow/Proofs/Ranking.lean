/-
  Pageflow.Proofs.Ranking — when mapping comes to an end.

  A maker is mapped by the definitions inside its generated value and by the parameters that its
  service shares.  The former are nested less deeply than the generated value itself, but a shared
  one may be entered from any depth and may need others again.  If the shared parameters can be
  ranked so that making one of them only ever needs those of smaller rank, every chain of makers
  ends: it goes down one definition, enters a shared parameter, goes down that one, and so on, and
  enters each of them once at most.  The bound on the rounds counts these steps.

  Main definitions: `Enters`, `Mapping.IsRanked` and `Shallow`.
  Main statement: `assemble_isSome`.
-/
import Mathlib.Data.Finset.Card
import Mathlib.Data.Finset.Filter
import Mathlib.Data.List.Flatten
import Pageflow.Proofs.Origins

namespace Pageflow.Flow

/-! ## §1. What a generated value needs. -/

/-- The generated value that mapping a parameter with this definition makes: a dynamic one makes
it in any case, another one unless a source before it is given. -/
def generated? (p : Document.Parameter) : Option Document.Generate :=
  if p.isDynamic then p.generate else Source.generator? p

theorem generate_of_generated? {p : Document.Parameter} {g : Document.Generate}
    (h : generated? p = some g) : p.generate = some g := by
  unfold generated? at h
  split at h
  · exact h
  · exact Source.generate_of_generator? h

/-- The strategy of a maker; it does not depend on how the maker is called. -/
def makerStrategy (m : Mapping) (service : String) (g : Document.Generate) : Option Strategy :=
  (strategyOf m.materials.functions service "" (g.toActivity "")
    (m.materials.bridges.get? service)).value

/-- The parameters that a maker is mapped for. -/
def asks (m : Mapping) (service : String) (g : Document.Generate) : List String :=
  ((makerStrategy m service g).map Strategy.ownParameterNames).getD []

/-- Mapping a maker of the generated value enters the shared parameter of this name: the maker
asks for it and has no definition of its own, or one that makes a value which enters it. -/
inductive Enters (m : Mapping) (service : String) : Document.Generate → String → Prop
  | shared {g : Document.Generate} {name : String} (asked : name ∈ asks m service g)
      (own : Dict.get? g.parameters name = none) (known : (m.shared? service name).isSome = true) :
      Enters m service g name
  | nested {g g' : Document.Generate} {x name : String} {p : Document.Parameter}
      (asked : x ∈ asks m service g) (own : Dict.get? g.parameters x = some p)
      (made : generated? p = some g') (inner : Enters m service g' name) :
      Enters m service g name

/-- The shared parameters of each service are ranked: a maker built for one of them enters only
those of smaller rank. -/
def Mapping.IsRanked (m : Mapping) (rank : String → String → Nat) : Prop :=
  ∀ service name p g needed, m.shared? service name = some p → generated? p = some g →
    Enters m service g needed → rank service needed < rank service name

section Makers

variable {m : Mapping} {service activity parameter : String} {g : Document.Generate}

/-- Which strategy it is does not depend on the name that is noted if there is none. -/
theorem capabilityStrategy_congr (service name name' capability : String)
    (bridge : Option Bridge) :
    (capabilityStrategy service name capability bridge).value
      = (capabilityStrategy service name' capability bridge).value := by
  unfold capabilityStrategy
  split
  next => rfl
  next =>
    split
    next => rfl
    next => split <;> rfl

theorem functionStrategy_congr (functions : Module) (service name name' function : String) :
    (functionStrategy functions service name function).value
      = (functionStrategy functions service name' function).value := by
  unfold functionStrategy
  split <;> rfl

theorem generatorOf_strategy :
    (generatorOf m service activity parameter g).value.strategy = makerStrategy m service g := by
  obtain ⟨bridgeCapability, moduleFunction, parameters⟩ := g
  cases bridgeCapability with
  | some capability => exact capabilityStrategy_congr _ _ _ _ _
  | none =>
    cases moduleFunction with
    | some function => exact functionStrategy_congr _ _ _ _ _
    | none => rfl

theorem generatorOf_definitions :
    (generatorOf m service activity parameter g).value.definitions = g.parameters := rfl

theorem generatorOf_service :
    (generatorOf m service activity parameter g).value.service = service := rfl

theorem mem_asks {strategy : Strategy} {name : String}
    (hs : (generatorOf m service activity parameter g).value.strategy = some strategy)
    (h : name ∈ strategy.ownParameterNames) : name ∈ asks m service g := by
  rw [generatorOf_strategy] at hs
  rw [asks, hs]
  exact h

theorem Enters.known {name : String} (h : Enters m service g name) :
    (m.shared? service name).isSome = true := by
  induction h with
  | shared _ _ known => exact known
  | nested _ _ _ _ ih => exact ih

end Makers

/-! ## §2. What mapping adds. -/

/-- The second activity is added for a generated value when the first one is mapped. -/
inductive Makes (m : Mapping) (a c : Activity) : Prop
  | parameter {strategy : Strategy} {name : String} {p : Document.Parameter}
      {g : Document.Generate} (hs : a.strategy = some strategy)
      (asked : name ∈ strategy.ownParameterNames)
      (hp : (a.definitions.get? name).or (m.shared? a.service name) = some p)
      (made : generated? p = some g)
      (hc : c = (generatorOf m a.service a.name name g).value) : Makes m a c
  | body {part : String} {p : Document.Parameter} {g : Document.Generate}
      (hp : (part, p) ∈ a.bodyDefinitions) (made : Source.generator? p = some g)
      (hc : c = (generatorOf m a.service a.name part g).value) : Makes m a c

section Additions

variable {m : Mapping} {a : Activity} {P : Activity → Prop}

theorem sourceOf_only {service activity parameter : String} {p : Document.Parameter}
    (h : ∀ g, Source.generator? p = some g →
      P (generatorOf m service activity parameter g).value) (added : Additions) :
    added.Only P (sourceOf m service activity parameter p added).value.2 := by
  unfold sourceOf
  split
  next g hg => exact Additions.only_push (h g hg)
  next => split <;> exact .refl added

theorem mapDefined_only {service activity name : String} {p : Document.Parameter}
    (h : ∀ g, generated? p = some g → P (generatorOf m service activity name g).value)
    (so : Mapped) :
    so.added.Only P (mapDefined m service activity name p so).value.added := by
  unfold mapDefined
  split
  next dynamic =>
    simp only [Noted.value_bind, Noted.value_pure]
    unfold dynamicOf
    split
    next g hg => exact Additions.only_push (h g (by rw [generated?, if_pos dynamic, hg]))
    next => exact .refl _
  next static => exact sourceOf_only (fun g hg => h g (by rw [generated?, if_neg static, hg])) _

theorem mapNames_only {strategy : Strategy} (hs : a.strategy = some strategy) :
    ∀ (names : List String) (so : Mapped), (∀ name ∈ names, name ∈ strategy.ownParameterNames) →
      so.added.Only (Makes m a) (names.foldlM (mapName m a) so).value.added
  | [], so, _ => .refl so.added
  | name :: rest, so, asked => by
      rw [List.foldlM_cons, Noted.value_bind]
      refine Additions.Only.trans ?_
        (mapNames_only hs rest _ fun x hx => asked x (List.mem_cons_of_mem _ hx))
      unfold mapName
      split
      next p hp =>
        exact mapDefined_only
          (fun g hg => .parameter hs (asked name List.mem_cons_self) hp hg rfl) so
      next =>
        unfold mapInput
        split <;> exact .refl so.added

theorem mapBody_only :
    ∀ (parts : List (String × Document.Parameter)) (body : Dict Source) (added : Additions),
      (∀ entry ∈ parts, entry ∈ a.bodyDefinitions) →
      added.Only (Makes m a) (mapBody m a parts body added).value.2
  | [], _, added, _ => .refl added
  | (part, p) :: rest, body, added, own => by
      simp only [mapBody, Noted.value_bind]
      have here : added.Only (Makes m a) (sourceOf m a.service a.name part p added).value.2 :=
        sourceOf_only (fun g hg => .body (own (part, p) List.mem_cons_self) hg rfl) added
      exact here.trans (mapBody_only rest _ _ fun e he => own e (List.mem_cons_of_mem _ he))

theorem mapActivity_only (m : Mapping) (a : Activity) (added : Additions) :
    added.Only (Makes m a) (mapActivity m a added).value.2 := by
  unfold mapActivity
  split
  next => exact .refl added
  next strategy hs =>
    split
    next => exact .refl added
    next =>
      simp only [mapOwn, Noted.value_bind, Noted.value_pure]
      refine (mapNames_only hs strategy.ownParameterNames { added } fun _ => id).trans ?_
      unfold mapRequestBody
      split
      next => exact mapBody_only a.bodyDefinitions [] _ fun _ => id
      next => split <;> exact .refl _

theorem mapRound_only (m : Mapping) :
    ∀ (activities : List Activity) (added : Additions),
      added.Only (fun c => ∃ a ∈ activities, Makes m a c) (mapRound m added activities).value.2
  | [], added => .refl added
  | a :: rest, added => by
      simp only [mapRound, Noted.value_bind, Noted.value_pure]
      refine ((mapActivity_only m a added).mono fun c hc => ⟨a, List.mem_cons_self, hc⟩).trans
        ((mapRound_only m rest _).mono ?_)
      rintro c ⟨a', ha', made⟩
      exact ⟨a', List.mem_cons_of_mem _ ha', made⟩

end Additions

/-! ## §3. Enough rounds. -/

/-- That many rounds map the activity, what is added for it, what is added for that, and so on. -/
def Shallow (m : Mapping) : Nat → Activity → Prop
  | 0, _ => False
  | rounds + 1, a => ∀ c, Makes m a c → Shallow m rounds c

theorem Shallow.mono {m : Mapping} {a : Activity} {rounds rounds' : Nat}
    (h : Shallow m rounds a) (hle : rounds ≤ rounds') : Shallow m rounds' a := by
  induction rounds generalizing rounds' a with
  | zero => contradiction
  | succ rounds ih =>
    cases rounds' with
    | zero => omega
    | succ rounds' => exact fun c hc => ih (h c hc) (by omega)

/-- Rounds that suffice for each activity suffice for all. -/
theorem mapRounds_isSome (m : Mapping) :
    ∀ (rounds place : Nat) (activities : List Activity), (∀ a ∈ activities, Shallow m rounds a) →
      (mapRounds m rounds place activities).value.isSome = true
  | rounds, _, [], _ => by cases rounds <;> rfl
  | 0, _, a :: _, h => (h a List.mem_cons_self).elim
  | rounds + 1, place, a :: rest, h => by
      simp only [mapRounds, Noted.value_bind, Noted.value_pure, Option.isSome_map]
      refine mapRounds_isSome m rounds _ _ ?_
      -- what this round adds needs one round less than what it is added for
      intro c hc
      rcases mapRound_only m (a :: rest) { place } c hc with hc | ⟨a', ha', made⟩
      · contradiction
      · exact h a' ha' c made

/-! ## §4. Ranks and depths. -/

/-- The names that a service shares, in the order in which they are looked up. -/
def Mapping.sharedNames (m : Mapping) (service : String) : List String :=
  ((m.shared.get? service).getD []).flatMap Dict.keys

/-- How many names that the service shares are of smaller rank. -/
def Mapping.level (m : Mapping) (rank : String → String → Nat) (service name : String) : Nat :=
  ((m.sharedNames service).toFinset.filter fun other =>
    rank service other < rank service name).card

section Levels

variable {m : Mapping} {rank : String → String → Nat} {service name other : String}

theorem shared?_cases {p : Document.Parameter} (h : m.shared? service name = some p) :
    ∃ maps shared entry, m.shared.get? service = some maps ∧ shared ∈ maps
      ∧ Dict.get? shared name = some entry ∧ entry.toDefinition = p := by
  obtain ⟨maps, hmaps, h⟩ := Option.bind_eq_some_iff.mp h
  obtain ⟨entry, hentry, hp⟩ := Option.map_eq_some_iff.mp h
  obtain ⟨shared, hshared, hget⟩ := List.exists_of_findSome?_eq_some hentry
  exact ⟨maps, shared, entry, hmaps, hshared, hget, hp⟩

theorem mem_sharedNames (h : (m.shared? service name).isSome = true) :
    name ∈ m.sharedNames service := by
  obtain ⟨p, hp⟩ := Option.isSome_iff_exists.mp h
  obtain ⟨maps, shared, entry, hmaps, hshared, hget, _⟩ := shared?_cases hp
  rw [Mapping.sharedNames, hmaps]
  exact List.mem_flatMap.mpr ⟨shared, hshared, List.mem_map_of_mem (Dict.mem_of_get? hget)⟩

theorem mem_allShared {p : Document.Parameter} (h : m.shared? service name = some p) :
    p ∈ m.allShared := by
  obtain ⟨maps, shared, entry, hmaps, hshared, hget, rfl⟩ := shared?_cases h
  refine List.mem_flatMap.mpr ⟨shared, List.mem_flatten.mpr ⟨maps, ?_, hshared⟩, ?_⟩
  · exact List.mem_map_of_mem (Dict.mem_of_get? hmaps)
  · exact List.mem_map_of_mem (List.mem_map_of_mem (Dict.mem_of_get? hget))

theorem length_sharedNames_le (m : Mapping) (service : String) :
    (m.sharedNames service).length ≤ m.allShared.length := by
  have count : ∀ maps : List (Dict Document.SharedParameter),
      (maps.flatMap Dict.keys).length
        = (maps.flatMap fun shared =>
          shared.values.map Document.SharedParameter.toDefinition).length := by
    intro maps
    simp only [List.length_flatMap, List.length_map, Dict.keys, Dict.values]
  unfold Mapping.sharedNames
  cases h : m.shared.get? service with
  | none => exact Nat.zero_le _
  | some maps =>
    rw [Option.getD_some, count, Mapping.allShared]
    have part : maps.Sublist m.shared.values.flatten :=
      List.sublist_flatten_of_mem (List.mem_map_of_mem (Dict.mem_of_get? h))
    exact (part.flatMap _).length_le

/-- What is shared and of smaller rank is of smaller level. -/
theorem level_lt_level (known : (m.shared? service other).isSome = true)
    (h : rank service other < rank service name) :
    m.level rank service other < m.level rank service name := by
  -- what is below `other` is below `name`, and so is `other`, which is not below itself
  refine Finset.card_lt_card (Finset.ssubset_iff_of_subset ?_ |>.mpr ⟨other, ?_, ?_⟩)
  · intro x hx
    obtain ⟨hx, below⟩ := Finset.mem_filter.mp hx
    exact Finset.mem_filter.mpr ⟨hx, below.trans h⟩
  · exact Finset.mem_filter.mpr ⟨List.mem_toFinset.mpr (mem_sharedNames known), h⟩
  · intro hx
    exact absurd (Finset.mem_filter.mp hx).2 (Nat.lt_irrefl _)

/-- There are more shared parameters than levels below any of them. -/
theorem level_lt_length (known : (m.shared? service name).isSome = true) :
    m.level rank service name < m.allShared.length := by
  have inside : m.level rank service name < (m.sharedNames service).toFinset.card := by
    refine Finset.card_lt_card (Finset.filter_ssubset.mpr ⟨name, ?_, Nat.lt_irrefl _⟩)
    exact List.mem_toFinset.mpr (mem_sharedNames known)
  exact (inside.trans_le (List.toFinset_card_le _)).trans_le (length_sharedNames_le m service)

end Levels

section Depths

theorem generateDepth_eq {p : Document.Parameter} {g : Document.Generate}
    (h : p.generate = some g) : generateDepth p = generateDepthOf g := by
  obtain ⟨_, _, _, _, _, _, _, generate, _, _⟩ := p
  obtain rfl := h
  rfl

theorem generateDepthOf_eq (g : Document.Generate) :
    generateDepthOf g = generateDepthAll g.parameters + 1 := by
  cases g
  rfl

theorem generateDepth_le_all {name : String} {p : Document.Parameter} :
    ∀ {definitions : List (String × Document.Parameter)}, (name, p) ∈ definitions →
      generateDepth p ≤ generateDepthAll definitions
  | (name', p') :: rest, h => by
      rw [generateDepthAll]
      rcases List.mem_cons.mp h with same | h
      · obtain ⟨_, rfl⟩ := Prod.mk.inj same
        exact Nat.le_max_left _ _
      · exact (generateDepth_le_all h).trans (Nat.le_max_right _ _)

/-- A generated value in a definition is no deeper than the definitions. -/
theorem depth_le_all {definitions : List (String × Document.Parameter)} {name : String}
    {p : Document.Parameter} {g : Document.Generate} (h : (name, p) ∈ definitions)
    (hg : p.generate = some g) : generateDepthOf g ≤ generateDepthAll definitions := by
  rw [← generateDepth_eq hg]
  exact generateDepth_le_all h

theorem le_foldl_max {x : Nat} :
    ∀ {xs : List Nat} {start : Nat}, x ≤ start ∨ x ∈ xs → x ≤ xs.foldl max start
  | [], _, h => h.resolve_right List.not_mem_nil
  | y :: ys, start, h => by
      rw [List.foldl_cons]
      refine le_foldl_max ?_
      rcases h with h | h
      · exact .inl (h.trans (Nat.le_max_left _ _))
      · rcases List.mem_cons.mp h with rfl | h
        · exact .inl (Nat.le_max_right _ _)
        · exact .inr h

variable {m : Mapping} {arena : List Activity}

theorem depth_le_deepest_of_shared {service name : String} {p : Document.Parameter}
    {g : Document.Generate} (h : m.shared? service name = some p) (hg : p.generate = some g) :
    generateDepthOf g ≤ deepest m arena := by
  rw [← generateDepth_eq hg]
  exact le_foldl_max (.inr (List.mem_append_right _ (List.mem_map_of_mem (mem_allShared h))))

theorem depth_le_deepest_of_mem {a : Activity} (ha : a ∈ arena) {name : String}
    {p : Document.Parameter} {g : Document.Generate}
    (h : (name, p) ∈ a.definitions ++ a.bodyDefinitions) (hg : p.generate = some g) :
    generateDepthOf g ≤ deepest m arena :=
  (depth_le_all h hg).trans
    (le_foldl_max (.inr (List.mem_append_left _ (List.mem_map_of_mem ha))))

end Depths

/-! ## §5. The bound on the rounds. -/

section Bound

variable {m : Mapping} {rank : String → String → Nat} {arena : List Activity}

/-- **Rounds for a maker.**  A chain that starts with it goes down its definitions, at most
`depth` of them, and then down a shared parameter of each of the levels below `level`. -/
theorem shallow_maker (ranked : m.IsRanked rank) :
    ∀ (rounds depth level : Nat) (service activity parameter : String) (g : Document.Generate),
      generateDepthOf g ≤ depth →
      (∀ name, Enters m service g name → m.level rank service name < level) →
      depth + deepest m arena * level ≤ rounds →
      Shallow m rounds (generatorOf m service activity parameter g).value
  | 0, depth, level, service, activity, parameter, g, hd, _, hr => by
      rw [generateDepthOf_eq] at hd
      omega
  -- each maker of the chain costs a round, and makes the depth or the level smaller
  | rounds + 1, depth, level, service, activity, parameter, g, hd, entered, hr => by
      rw [generateDepthOf_eq] at hd
      intro c hc
      cases hc with
      | @parameter strategy name p g' hs asked hp made hc =>
        subst hc
        have asks := mem_asks hs asked
        rcases Option.or_eq_some_iff.mp hp with own | ⟨own, shared⟩
        · -- down the definitions of the maker
          have shallower := depth_le_all (Dict.mem_of_get? own) (generate_of_generated? made)
          rw [generatorOf_definitions] at own shallower
          exact shallow_maker ranked rounds (depth - 1) level _ _ _ g' (by omega)
            (fun needed h => entered needed (.nested asks own made h)) (by omega)
        · -- into a shared parameter, from where only lower levels are entered
          rw [generatorOf_definitions] at own
          rw [generatorOf_service] at shared
          have lower := entered name (.shared asks own (by rw [shared]; rfl))
          have product := Nat.mul_le_mul_left (deepest m arena) (Nat.succ_le_of_lt lower)
          rw [Nat.mul_succ] at product
          exact shallow_maker ranked rounds (deepest m arena) (m.level rank service name) _ _ _ g'
            (depth_le_deepest_of_shared shared (generate_of_generated? made))
            (fun needed h =>
              level_lt_level h.known (ranked service name p g' needed shared made h)) (by omega)
      | body hp _ _ => contradiction

/-- **The bound suffices for every activity that is declared.** -/
theorem shallow_of_mem (ranked : m.IsRanked rank) {a : Activity} (ha : a ∈ arena) :
    Shallow m (roundBound m arena) a := by
  have maker : ∀ name g, generateDepthOf g ≤ deepest m arena →
      Shallow m (deepest m arena + deepest m arena * m.allShared.length)
        (generatorOf m a.service a.name name g).value :=
    fun name g hg => shallow_maker ranked _ (deepest m arena) m.allShared.length _ _ name g hg
      (fun needed h => level_lt_length h.known) (Nat.le_refl _)
  have shallow : Shallow m (deepest m arena + deepest m arena * m.allShared.length + 1) a := by
    intro c hc
    cases hc with
    | parameter hs asked hp made hc =>
      subst hc
      refine maker _ _ ?_
      rcases Option.or_eq_some_iff.mp hp with own | ⟨_, shared⟩
      · exact depth_le_deepest_of_mem ha (List.mem_append_left _ (Dict.mem_of_get? own))
          (generate_of_generated? made)
      · exact depth_le_deepest_of_shared shared (generate_of_generated? made)
    | body hp made hc =>
      subst hc
      exact maker _ _ (depth_le_deepest_of_mem ha (List.mem_append_right _ hp)
        (Source.generate_of_generator? made))
  refine shallow.mono ?_
  rw [roundBound, Nat.add_mul, Nat.mul_add]
  omega

end Bound

/-- **With ranked shared parameters there is a flow.** -/
theorem assemble_isSome {m : Materials} {page : Document.Page} {process : Document.Process}
    {rank : String → String → Nat} (ranked : (mappingOf m page process).IsRanked rank) :
    (assemble? m page process).value.isSome = true := by
  simp only [assemble?, Noted.value_bind, Noted.value_pure, Option.isSome_map]
  exact mapRounds_isSome _ _ _ _ fun a ha => shallow_of_mem ranked ha

end Pageflow.Flow
