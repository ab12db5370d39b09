/-
  Pageflow.Proofs.Restoring — inputs, parameters and activities are read back.

  One law for every reader, in the order of `Document.Reading`.  For a record: what its fields
  yield, then each field from the member it is written in.

  Parameters and activities nest, and their readers go as deep as the value does.  So a value of
  these types is read back by every reader that goes as deep as its written form.  What is known of
  a value is that, together with the same of the values inside; it is carried by induction on the
  depth of the reader that gave it, and used by induction on the depth of the written form.

  Main definitions: `Parameter.ReadsBack` and `Activity.ReadsBack`.
  Main statements: `restores_ui`, `restores_parameter`, `restores_generate`, `restores_activity` and
  `restores_commonActivity`.
-/
import Pageflow.Document.Reading
import Pageflow.Proofs.Readers

namespace Pageflow.Document

/-! ## §1. Inputs -/

theorem restores_inputField : Restores readInputField InputField.toJson := by
  refine yields_record (.seq (.seq (.seq (.map ?_ (yields_field restores_text rfl))
    (yields_field restores_text? rfl)) (yields_field restores_text? rfl))
    (yields_field restores_truth rfl))
  intro _ label _ default _ query _ area
  exact record_object (.seq (.seq (.seq (.map (rereads_fieldAs label rfl))
    (rereads_fieldAs default rfl)) (rereads_fieldAs query rfl)) (rereads_fieldAs area rfl))

theorem restores_selectOption : Restores readSelectOption SelectOption.toJson := by
  refine yields_record (.seq (.map ?_ (yields_required restores_text))
    (yields_required restores_text))
  intro _ label _ value
  exact record_object (.seq (.map (rereads_fieldAs label rfl)) (rereads_fieldAs value rfl))

theorem restores_select : Restores readSelect Select.toJson := by
  refine yields_record (.seq (.seq (.map ?_ (yields_field restores_text rfl))
    (yields_field (restores_list restores_selectOption) rfl)) (yields_field restores_text? rfl))
  intro _ label _ options _ default
  exact record_object (.seq (.seq (.map (rereads_fieldAs label rfl))
    (rereads_fieldAs options rfl)) (rereads_fieldAs default rfl))

theorem restores_checkBox : Restores readCheckBox CheckBox.toJson := by
  refine yields_record (.seq (.map ?_ (yields_field restores_text rfl))
    (yields_field restores_truth rfl))
  intro _ label _ checked
  exact record_object (.seq (.map (rereads_fieldAs label rfl)) (rereads_fieldAs checked rfl))

theorem restores_button : Restores readButton Button.toJson := by
  refine yields_record (.seq (.seq (.seq (.map ?_ (yields_field restores_text rfl))
    (yields_field restores_text? rfl)) (yields_field restores_text? rfl))
    (yields_field restores_text? rfl))
  intro _ label _ activity _ sequence _ service
  exact record_object (.seq (.seq (.seq (.map (rereads_fieldAs label rfl))
    (rereads_fieldAs activity rfl)) (rereads_fieldAs sequence rfl)) (rereads_fieldAs service rfl))

theorem restores_fileInput : Restores readFileInput FileInput.toJson := by
  refine yields_record (.seq (.seq (.seq (.seq (.map ?_ (yields_field restores_text rfl))
    (yields_field restores_text? rfl)) (yields_field restores_truth rfl))
    (yields_field restores_truth rfl)) (yields_field restores_truth rfl))
  intro _ label _ accept _ binary _ immediately _ keep
  exact record_object (.seq (.seq (.seq (.seq (.map (rereads_fieldAs label rfl))
    (rereads_fieldAs accept rfl)) (rereads_fieldAs binary rfl))
    (rereads_fieldAs immediately rfl)) (rereads_fieldAs keep rfl))

theorem restores_ui : Restores readUi Ui.toJson := by
  refine yields_record (.seq (.seq (.seq (.seq
    (.map ?_ (yields_field (restores_dict restores_inputField) rfl))
    (yields_field (restores_dict restores_select) rfl))
    (yields_field (restores_dict restores_checkBox) rfl))
    (yields_field (restores_dict restores_button) rfl))
    (yields_field (restores_dict restores_fileInput) rfl))
  intro _ fields _ selects _ boxes _ buttons _ files
  exact record_object (.seq (.seq (.seq (.seq (.map (rereads_fieldAs fields rfl))
    (rereads_fieldAs selects rfl)) (rereads_fieldAs boxes rfl)) (rereads_fieldAs buttons rfl))
    (rereads_fieldAs files rfl))

/-! ## §2. Stores -/

theorem restores_storeScope : Restores readStoreScope fun scope => .string scope.label := by
  intro _ scope _
  cases scope <;> rfl

theorem restores_storeTarget : Restores readStoreTarget StoreTarget.toJson := by
  refine yields_record (.seq (.map ?_
    (yields_fieldAs restores_storeScope fun _ same => Option.some.inj same ▸ rfl))
    (yields_required restores_text))
  intro _ scope _ key
  exact record_object (.seq (.map (rereads_fieldAs scope rfl)) (rereads_fieldAs key rfl))

theorem restores_storeTarget? :
    Restores (optional readStoreTarget) (writeOption StoreTarget.toJson) :=
  restores_optional restores_storeTarget nofun

/-! ## §3. Parameters -/

/-- Whatever reader of parameters reads those of `g`, the generated value is read back with it. -/
def Generate.ReadsBackWith (g : Generate) : Prop :=
  ∀ parameter : Reader Parameter, (∀ e ∈ g.parameters, parameter e.2.toJson = .ok e.2) →
    readGenerateWith parameter g.toJson = .ok g

theorem yields_generateWith {parameter : Reader Parameter} {P : Parameter → Prop}
    (h : Yields parameter P) : Yields (readGenerateWith parameter) fun g =>
      (∀ e ∈ g.parameters, P e.2) ∧ g.ReadsBackWith := by
  refine yields_record (.seq (.seq (.map ?_ (yields_field restores_text? rfl))
    (yields_field restores_text? rfl)) (yields_field (yields_dict h) nofun))
  intro capability hc function hf parameters known
  refine ⟨known, fun again inside => ?_⟩
  have entries : dict again (.object (writeParameters parameters)) = .ok parameters := by
    rw [writeParameters_eq]
    exact dict_writeDict inside
  exact record_object (.seq (.seq (.map (rereads_fieldAs hc rfl)) (rereads_fieldAs hf rfl))
    (rereads_fieldAs entries rfl))

/-- Whatever reader of generated values reads that of `p`, the parameter is read back with it. -/
def Parameter.ReadsBackWith (p : Parameter) : Prop :=
  ∀ generate : Reader Generate, (∀ g : Generate, p.generate = some g → generate g.toJson = .ok g) →
    readParameterWith generate p.toJson = .ok p

theorem yields_parameterWith {generate : Reader Generate} {P : Generate → Prop}
    (h : Yields generate P) : Yields (readParameterWith generate) fun p =>
      (∀ g, p.generate = some g → P g) ∧ p.ReadsBackWith := by
  refine yields_record (.seq (.seq (.seq (.seq (.seq (.seq (.seq (.seq (.seq (.map ?_
    (yields_field restores_text? rfl)) (yields_field restores_text? rfl))
    (yields_field restores_truth rfl)) (yields_field restores_truth rfl))
    (yields_field restores_json? rfl)) (yields_field restores_storeTarget? rfl))
    (yields_field restores_text? rfl)) (yields_field (yields_optional h) nofun))
    (yields_field restores_text? rfl)) (yields_field restores_truth rfl))
  intro _ type _ field _ parent _ previous _ constant _ store _ query generate known _ file
    _ dynamic
  refine ⟨known, fun again inside => ?_⟩
  have value : optional again (writeGenerate? generate) = .ok generate := by
    have written : writeGenerate? generate = writeOption Generate.toJson generate := by
      cases generate <;> rfl
    rw [written]
    exact optional_writeOption (fun ⟨_, _, _⟩ => nofun) inside
  exact record_object (.seq (.seq (.seq (.seq (.seq (.seq (.seq (.seq (.seq (.map
    (rereads_fieldAs type rfl)) (rereads_fieldAs field rfl)) (rereads_fieldAs parent rfl))
    (rereads_fieldAs previous rfl)) (rereads_fieldAs constant rfl)) (rereads_fieldAs store rfl))
    (rereads_fieldAs query rfl)) (rereads_fieldAs value rfl)) (rereads_fieldAs file rfl))
    (rereads_fieldAs dynamic rfl))

/-- The parameter is read back by every reader that goes as deep as its written form. -/
def Parameter.ReadsBack (p : Parameter) : Prop :=
  ∀ n, depth p.toJson ≤ n → readParameterTo n p.toJson = .ok p

/-- What stands inside a parameter is not as deep as the parameter. -/
theorem depth_parameter_lt {p : Parameter} {g : Generate} (given : p.generate = some g)
    {e : String × Parameter} (mem : e ∈ g.parameters) : depth e.2.toJson < depth p.toJson := by
  obtain ⟨type, field, parent, previous, constant, store, query, generate, file, isDynamic⟩ := p
  obtain rfl : generate = some g := given
  obtain ⟨capability, function, parameters⟩ := g
  have entry : (e.1, e.2.toJson) ∈ writeParameters parameters := by
    rw [writeParameters_eq]
    exact List.mem_map.mpr ⟨e, mem, rfl⟩
  have inner : depth e.2.toJson < depth (.object (writeParameters parameters)) :=
    depth_lt_of_mem entry
  have outer : depth (.object (writeParameters parameters))
      < depth (writeGenerate ⟨capability, function, parameters⟩) :=
    depth_lt_of_mem (List.mem_of_getElem? (i := 2) rfl)
  have whole : depth (writeGenerate ⟨capability, function, parameters⟩) < depth (Parameter.toJson
      ⟨type, field, parent, previous, constant, store, query,
        some ⟨capability, function, parameters⟩, file, isDynamic⟩) :=
    depth_lt_of_mem (List.mem_of_getElem? (i := 7) rfl)
  omega

theorem Parameter.ReadsBackWith.readsBack {p : Parameter} (back : p.ReadsBackWith)
    (inside : ∀ g : Generate, p.generate = some g →
      (∀ e ∈ g.parameters, e.2.ReadsBack) ∧ g.ReadsBackWith) : p.ReadsBack := by
  intro n enough
  cases n with
  | zero =>
    -- every parameter is written as an object
    obtain ⟨_, _, _, _, _, _, _, _, _, _⟩ := p
    exact absurd enough (Nat.not_succ_le_zero _)
  | succ n =>
    refine back _ fun g given => ?_
    obtain ⟨entries, again⟩ := inside g given
    refine again _ fun e mem => entries e mem n ?_
    have := depth_parameter_lt given mem
    omega

/-- Every reader of parameters yields parameters that are read back, however deep it goes. -/
theorem yields_parameterTo (n : Nat) : Yields (readParameterTo n) Parameter.ReadsBack := by
  have step {generate : Reader Generate} (h : Yields generate fun g =>
      (∀ e ∈ g.parameters, e.2.ReadsBack) ∧ g.ReadsBackWith) :
      Yields (readParameterWith generate) Parameter.ReadsBack :=
    (yields_parameterWith h).imp fun _ ⟨inside, back⟩ => back.readsBack inside
  induction n with
  -- at depth zero no generated value can be read
  | zero => exact step nofun
  | succ n ih => exact step (yields_generateWith ih)

theorem restores_parameter : Restores readParameter Parameter.toJson :=
  fun v p ok => yields_parameterTo (depth v) v p ok (depth p.toJson) (Nat.le_refl _)

theorem restores_generate : Restores readGenerate Generate.toJson :=
  (yields_generateWith restores_parameter).imp fun _ ⟨inside, back⟩ => back readParameter inside

theorem restores_shared : Restores readSharedParameter SharedParameter.toJson := by
  refine yields_oneOf (List.forall_mem_cons.mpr ⟨?_, List.forall_mem_singleton.mpr ?_⟩)
  · exact yields_map restores_text fun name _ => rfl
  · refine yields_map restores_parameter fun p back => ?_
    have noText : text p.toJson = .error (.wrongType p.toJson "a string") := by
      obtain ⟨_, _, _, _, _, _, _, _, _, _⟩ := p
      rfl
    rw [SharedParameter.toJson, readSharedParameter, oneOf_of_error (by rw [noText]; rfl)]
    exact oneOf_of_ok (by rw [back]; rfl)

/-! ## §4. What happens with a result -/

theorem restores_required : Restores readRequired Required.toJson := by
  refine yields_record (.seq (.seq (.map ?_ (yields_field restores_text? rfl))
    (yields_required restores_text)) (yields_field restores_text? rfl))
  intro _ service _ activity _ message
  exact record_object (.seq (.seq (.map (rereads_fieldAs service rfl))
    (rereads_fieldAs activity rfl)) (rereads_fieldAs message rfl))

theorem restores_openInput : Restores readOpenInput OpenInput.toJson := by
  refine yields_oneOf (List.forall_mem_cons.mpr ⟨?_, List.forall_mem_singleton.mpr ?_⟩)
  · exact yields_map restores_truth fun on _ => rfl
  · have any : Yields readInsertPosition fun _ => True := fun _ _ _ => trivial
    exact yields_map any fun position _ => by cases position <;> rfl

theorem restores_presentation : Restores readPresentation Presentation.toJson := by
  have notNull : ∀ o : OpenInput, o.toJson ≠ .null := by
    intro o
    cases o <;> exact nofun
  refine yields_record (.seq (.seq (.seq (.seq (.map ?_ (yields_field restores_text? rfl))
    (yields_field restores_truth rfl))
    (yields_field (restores_optional restores_openInput notNull) rfl))
    (yields_field restores_bool? rfl)) (yields_field restores_bool? rfl))
  intro _ html _ isDynamic _ openInput _ alert _ status
  exact record_object (.seq (.seq (.seq (.seq (.map (rereads_fieldAs html rfl))
    (rereads_fieldAs isDynamic rfl)) (rereads_fieldAs openInput rfl)) (rereads_fieldAs alert rfl))
    (rereads_fieldAs status rfl))

theorem restores_overrides : Restores readOverrides Overrides.toJson := by
  refine yields_record (.seq (.map ?_ (yields_field restores_bool? rfl))
    (yields_field restores_json? rfl))
  intro _ execute _ result
  exact record_object (.seq (.map (rereads_fieldAs execute rfl)) (rereads_fieldAs result rfl))

theorem restores_overrides? : Restores (optional readOverrides) (writeOption Overrides.toJson) :=
  restores_optional restores_overrides nofun

/-! ## §5. Activities -/

/-- Whatever reader of activities reads those inside `a`, the activity is read back with it. -/
def Activity.ReadsBackWith (a : Activity) : Prop :=
  ∀ activity : Reader Activity, (∀ e ∈ a.subActivities, activity e.2.toJson = .ok e.2) →
    readActivityWith activity a.toJson = .ok a

theorem yields_activityWith {activity : Reader Activity} {P : Activity → Prop}
    (h : Yields activity P) : Yields (readActivityWith activity) fun a =>
      (∀ e ∈ a.subActivities, P e.2) ∧ a.ReadsBackWith := by
  refine yields_record (.seq (.seq (.seq (.seq (.seq (.seq (.seq (.seq (.seq (.seq (.seq (.map ?_
    (yields_field restores_text rfl)) (yields_field restores_text? rfl))
    (yields_field restores_text? rfl)) (yields_field restores_text? rfl))
    (yields_field (restores_dict restores_parameter) rfl))
    (yields_field (restores_optional (restores_dict restores_parameter) nofun) rfl))
    (yields_field (restores_list restores_required) rfl)) (yields_field (yields_dict h) nofun))
    (yields_field restores_storeTarget? rfl))
    (yields_field (restores_optional restores_binary nofun) rfl))
    (yields_field restores_presentation rfl)) (yields_field restores_overrides? rfl))
  intro _ title _ preProcess _ capability _ function _ parameters _ body _ required inside known
    _ store _ priority _ ui _ debug
  refine ⟨known, fun again insides => ?_⟩
  have entries : dict again (.object (writeActivities inside)) = .ok inside := by
    rw [writeActivities_eq]
    exact dict_writeDict insides
  exact record_object (.seq (.seq (.seq (.seq (.seq (.seq (.seq (.seq (.seq (.seq (.seq (.map
    (rereads_fieldAs title rfl)) (rereads_fieldAs preProcess rfl)) (rereads_fieldAs capability rfl))
    (rereads_fieldAs function rfl)) (rereads_fieldAs parameters rfl)) (rereads_fieldAs body rfl))
    (rereads_fieldAs required rfl)) (rereads_fieldAs entries rfl)) (rereads_fieldAs store rfl))
    (rereads_fieldAs priority rfl)) (rereads_fieldAs ui rfl)) (rereads_fieldAs debug rfl))

/-- The activity is read back by every reader that goes as deep as its written form. -/
def Activity.ReadsBack (a : Activity) : Prop :=
  ∀ n, depth a.toJson ≤ n → readActivityTo n a.toJson = .ok a

/-- What stands inside an activity is not as deep as the activity. -/
theorem depth_activity_lt {a : Activity} {e : String × Activity} (mem : e ∈ a.subActivities) :
    depth e.2.toJson < depth a.toJson := by
  obtain ⟨title, preProcess, capability, function, parameters, body, required, inside, store,
    priority, ui, debug⟩ := a
  have entry : (e.1, e.2.toJson) ∈ writeActivities inside := by
    rw [writeActivities_eq]
    exact List.mem_map.mpr ⟨e, mem, rfl⟩
  have inner : depth e.2.toJson < depth (.object (writeActivities inside)) :=
    depth_lt_of_mem entry
  have whole : depth (.object (writeActivities inside)) < depth (Activity.toJson
      ⟨title, preProcess, capability, function, parameters, body, required, inside, store,
        priority, ui, debug⟩) :=
    depth_lt_of_mem (List.mem_of_getElem? (i := 7) rfl)
  omega

theorem Activity.ReadsBackWith.readsBack {a : Activity} (back : a.ReadsBackWith)
    (inside : ∀ e ∈ a.subActivities, e.2.ReadsBack) : a.ReadsBack := by
  intro n enough
  cases n with
  | zero =>
    -- every activity is written as an object
    obtain ⟨_, _, _, _, _, _, _, _, _, _, _, _⟩ := a
    exact absurd enough (Nat.not_succ_le_zero _)
  | succ n =>
    refine back _ fun e mem => inside e mem n ?_
    have := depth_activity_lt mem
    omega

/-- Every reader of activities yields activities that are read back, however deep it goes. -/
theorem yields_activityTo (n : Nat) : Yields (readActivityTo n) Activity.ReadsBack := by
  have step {activity : Reader Activity} (h : Yields activity Activity.ReadsBack) :
      Yields (readActivityWith activity) Activity.ReadsBack :=
    (yields_activityWith h).imp fun _ ⟨inside, back⟩ => back.readsBack inside
  induction n with
  -- at depth zero no activity inside can be read
  | zero => exact step nofun
  | succ n ih => exact step ih

theorem restores_activity : Restores readActivity Activity.toJson :=
  fun v a ok => yields_activityTo (depth v) v a ok (depth a.toJson) (Nat.le_refl _)

theorem restores_reference : Restores readReference Reference.toJson := by
  refine yields_record (.seq (.seq (.seq (.seq (.map ?_ (yields_required restores_text))
    (yields_required restores_text)) (yields_field restores_text? rfl))
    (yields_field (restores_dict restores_activity) rfl)) (yields_field restores_overrides? rfl))
  intro _ service _ activity _ title _ inside _ debug
  exact record_object (.seq (.seq (.seq (.seq (.map (rereads_fieldAs service rfl))
    (rereads_fieldAs activity rfl)) (rereads_fieldAs title rfl)) (rereads_fieldAs inside rfl))
    (rereads_fieldAs debug rfl))

/-- What is written of an activity is not taken for a reference: it names no service. -/
theorem readReference_activity (a : Activity) : ∃ e, readReference a.toJson = .error e := by
  obtain ⟨_, _, _, _, _, _, _, _, _, _, _, _⟩ := a
  exact record_of_fails (.seq (.seq (.seq (.seq (.map (fails_required rfl))))))

theorem restores_commonActivity : Restores readCommonActivity CommonActivity.toJson := by
  refine yields_oneOf (List.forall_mem_cons.mpr ⟨?_, List.forall_mem_singleton.mpr ?_⟩)
  · refine yields_map restores_reference fun r back => oneOf_of_ok ?_
    rw [CommonActivity.toJson, back]
    rfl
  · refine yields_map restores_activity fun a back => ?_
    obtain ⟨e, refused⟩ := readReference_activity a
    rw [CommonActivity.toJson, readCommonActivity, oneOf_of_error (by rw [refused]; rfl)]
    exact oneOf_of_ok (by rw [back]; rfl)

theorem restores_sequence : Restores readSequence Sequence.toJson := by
  refine yields_record (.seq (.map ?_ (yields_field restores_text? rfl))
    (yields_field (restores_list restores_text) rfl))
  intro _ title _ activities
  exact record_object (.seq (.map (rereads_fieldAs title rfl)) (rereads_fieldAs activities rfl))

end Pageflow.Document
