import EntityStore.Proofs.Write.Reconcile

/-! Writing objects.
The fields of an object are written one after another. What one field has stored stays stored while the
others are written, because no identifier is a member under two keys; and what is below an object is
written before the object itself is done, so objects of any depth are written by induction.
-/

namespace EntityStore

variable {types model : Model} {context before middle after : Context} {entity : String}
  {id : ObjectId} {field : Field}

/-- A field that is not stored is written by writing nothing. -/
theorem FieldWritten.skipped {content : Content} (start : Writable types entity id before)
    (skipped : field.skipped = true)
    : FieldWritten types model id field content before before :=
  { forest := start.forest
    confined := .refl _ _
    result := fun {record} found =>
      ⟨record, field.defaultContent, found, rfl, fun _ _ => rfl, fun _ _ => rfl,
        by rw [Object.FieldReadsBack, if_pos skipped], by rw [Object.FieldStored, if_pos skipped]⟩ }

/-- Setting an attribute writes the content that the attribute stands for. -/
theorem FieldWritten.setValue {content : Content} {slot : Option Value}
    (lawful : model.Lawful types) (known : model.Knows entity)
    (start : Writable types entity id before) (inside : field ∈ (model.entity entity).fields)
    (kept : field.skipped = false) (encodes : field.Encodes slot)
    (back : Object.ContentReadsBack model field content content)
    (stored
      : ∀ {source record},
          record.value? field.key = slot → Object.ContentStored model source record field content)
    : FieldWritten types model id field content before (before.setValue id field.key slot) := by
  refine { forest := start.forest.setValue id field.key slot, confined := ?_, result := ?_ }
  · refine (Confined.setValue ?_).mono (fun x _ same => Or.inl same)
    intro record found other listed same kept'
    rw [start.typed found, lawful.entity_eq known] at listed
    obtain rfl := lawful.key_inj known listed inside same
    exact encodes
  · intro record found
    refine ⟨record.setValue field.key slot, content, ?_, rfl, ?_, fun _ _ => rfl, ?_, ?_⟩
    · rw [Context.record?_setValue, if_pos rfl, found, Option.map_some]
    · intro key other
      rw [Record.value?_setValue, if_neg other]
    · rw [Object.FieldReadsBack, if_neg (by simp [kept])]
      exact back
    · rw [Object.FieldStored, if_neg (by simp [kept])]
      exact stored (by rw [Record.value?_setValue, if_pos rfl])

/-- A content that fits is written, or the job gives up. -/
theorem writeContent_ensures (lawful : model.Lawful types) (known : model.Knows entity)
    (start : Writable types entity id before) (inside : field ∈ (model.entity entity).fields)
    {content : Content} (each : ∀ object ∈ content.objects, Writes types model object)
    (fits : Object.contentFits model field content = true)
    : (Object.writeContent model field content id).Ensures before
        (fun _ after => FieldWritten types model id field content before after) := by
  cases content with
  | scalar content =>
      rw [Object.writeContent]
      split
      · next skipped => exact .pure (.skipped start skipped)
      · next kept =>
          rw [Bool.not_eq_true] at kept
          simp only [Object.contentFits] at fits
          split at fits
          · next type kind =>
              simp only [Bool.and_eq_true, decide_eq_true_eq] at fits
              refine .write (.setValue lawful known start inside kept ?_ ?_ ?_)
              · simp only [Field.Encodes, kind]
                exact ⟨content, fits.1, fits.2, rfl⟩
              · simp only [Object.ContentReadsBack]
              · intro source record slot
                simp only [Object.ContentStored]
                exact ⟨type, kind, fits.1, fits.2, slot⟩
          · contradiction
  | textual content =>
      rw [Object.writeContent]
      split
      · next skipped => exact .pure (.skipped start skipped)
      · next kept =>
          rw [Bool.not_eq_true] at kept
          simp only [Object.contentFits] at fits
          split at fits
          · next type kind =>
              simp only [Bool.and_eq_true, decide_eq_true_eq] at fits
              cases written : content.toTextAttribute with
              | error abort =>
                  obtain ⟨message, rfl⟩ := Shaped.toTextAttribute_panic written
                  exact .lift_panic rfl
              | ok slot =>
                  refine .lift_bind rfl (.write ?_)
                  refine .setValue lawful known start inside kept ?_ ?_ ?_
                  · simp only [Field.Encodes, kind]
                    exact ⟨content, fits.1, fits.2, written⟩
                  · simp only [Object.ContentReadsBack]
                  · intro source record same
                    obtain rfl := same
                    simp only [Object.ContentStored]
                    exact ⟨type, kind, fits.1, fits.2, written⟩
          · contradiction
  | members present objects =>
      simp only [Object.contentFits] at fits
      split at fits
      · next target kind =>
          simp only [Bool.and_eq_true] at fits
          rw [Object.writeContent_members kind (lawful.reference known inside kind).1]
          exact reconcile_ensures lawful known start inside kind each fits.1 fits.2 _ _
      · contradiction

/-- The context after the contents of some fields were written to an identifier. -/
structure ContentsWritten (types model : Model) (id : ObjectId) (fields : List Field)
    (contents : List Content) (before after : Context)
    : Prop where
  forest : Forest types after
  confined
    : Confined types
        (fun x => ∃ key ∈ fields.map (·.key), FieldTouched before.record? id key x)
        before after
  result
    : ∀ {record},
        before.record? id = some record
        → ∃ record' reads,
            after.record? id = some record'
            ∧ record'.entity = record.entity
            ∧ (∀ key, key ∉ fields.map (·.key) → record'.value? key = record.value? key)
            ∧ (∀ key, key ∉ fields.map (·.key) → record'.related key = record.related key)
            ∧ Object.ContentsReadBack model fields contents reads
            ∧ Object.ContentsStored model after.record? record' fields reads

/-- Writing nothing writes no fields. -/
theorem ContentsWritten.nil (start : Writable types entity id before)
    : ContentsWritten types model id [] [] before before :=
  { forest := start.forest
    confined := .refl _ _
    result := fun {record} found =>
      ⟨record, [], found, rfl, fun _ _ => rfl, fun _ _ => rfl,
        by simp only [Object.ContentsReadBack], by simp only [Object.ContentsStored]⟩ }

/-- What a later field touches it would have touched from the start. -/
private theorem touched_earlier {touched : ObjectId → Prop} {key : String} {x : ObjectId}
    (start : Writable types entity id before) (forest : Forest types middle)
    (confined : Confined types touched before middle) (old : x.rank < before.nextId.toNat)
    (later : FieldTouched middle.record? id key x)
    : FieldTouched before.record? id key x := by
  rcases later with same | ⟨member, held, path⟩
  · exact Or.inl same
  · have known : member.rank < before.nextId.toNat :=
      Nat.lt_of_le_of_lt (forest.rank_le_of_reaches path) old
    exact Or.inr ⟨member, confined.inherits known held, confined.reaches start.forest old path⟩

/-- What fields of other keys touch is apart from the members of a field. -/
private theorem members_untouched (forest : Forest types middle) {record : Record} {key : String}
    (found : middle.record? id = some record) {keys : List String} (other : key ∉ keys)
    {member x : ObjectId} (held : member ∈ record.related key)
    (path : Reaches middle.record? member x)
    : ¬ ∃ k ∈ keys, FieldTouched middle.record? id k x := by
  have link : Holds middle.record? id key member := ⟨record, found, held⟩
  intro given
  rcases given with ⟨k, listed, rfl | ⟨rival, held', path'⟩⟩
  · exact forest.not_reaches_owner ⟨key, link⟩ path
  · refine forest.members_apart ⟨key, link⟩ ⟨k, held'⟩ ?_ path path'
    intro same
    obtain rfl := same
    exact other ((forest.sole link held').2 ▸ listed)

/-- What is stored in a field stays stored while fields of other keys are written. -/
private theorem fieldStored_after {record record' : Record} {fields : List Field}
    {contents : List Content} {read : Content} (forest : Forest types middle)
    (found : middle.record? id = some record) (other : field.key ∉ fields.map (·.key))
    (later : ContentsWritten types model id fields contents middle after)
    (values : record'.value? field.key = record.value? field.key)
    (members : record'.related field.key = record.related field.key)
    (stored : Object.FieldStored model middle.record? record field read)
    : Object.FieldStored model after.record? record' field read := by
  unfold Object.FieldStored at *
  split at stored
  · next skipped => rwa [if_pos skipped]
  · next kept =>
      rw [if_neg kept]
      refine stored.congr read values members (fun member held => ?_)
      refine later.confined.frame_reaches forest (forest.rank_lt_of_linked ⟨_, record, found, held⟩)
        (fun x path => ?_)
      exact members_untouched forest found other held path

/-- A field and then the others are written. -/
theorem ContentsWritten.cons {fields : List Field} {content : Content} {contents : List Content}
    (start : Writable types entity id before) (distinct : ((field :: fields).map (·.key)).Nodup)
    (first : FieldWritten types model id field content before middle)
    (later : ContentsWritten types model id fields contents middle after)
    : ContentsWritten types model id (field :: fields) (content :: contents) before after := by
  obtain ⟨other, distinct⟩ := List.nodup_cons.mp distinct
  refine { forest := later.forest, confined := ?_, result := ?_ }
  · refine (first.confined.mono (fun x _ touched => ?_)).trans later.confined ?_
    · exact ⟨field.key, List.mem_cons_self, touched⟩
    · intro x old touches
      obtain ⟨key, listed, touched⟩ := touches
      exact ⟨key, List.mem_cons_of_mem _ listed,
        touched_earlier start first.forest first.confined old touched⟩
  · intro record found
    obtain ⟨middle', read, found', typed, values, members, back, stored⟩ := first.result found
    obtain ⟨record', reads, found'', typed', values', members', backs, storeds⟩ :=
      later.result found'
    refine ⟨record', read :: reads, found'', typed'.trans typed, ?_, ?_, ?_, ?_⟩
    · intro key outside
      rw [List.map_cons, List.mem_cons, not_or] at outside
      exact (values' key outside.2).trans (values key outside.1)
    · intro key outside
      rw [List.map_cons, List.mem_cons, not_or] at outside
      exact (members' key outside.2).trans (members key outside.1)
    · simp only [Object.ContentsReadBack]
      exact ⟨back, backs⟩
    · simp only [Object.ContentsStored]
      exact ⟨fieldStored_after first.forest found' other later (values' _ other) (members' _ other)
        stored, storeds⟩

/-- Contents that fit are written, or the job gives up. -/
theorem writeContents_ensures (lawful : model.Lawful types) (known : model.Knows entity)
    (fields : List Field) (part : fields ⊆ (model.entity entity).fields)
    (distinct : (fields.map (·.key)).Nodup) (contents : List Content)
    (each : ∀ content ∈ contents, ∀ object ∈ content.objects, Writes types model object)
    (fits : Object.contentsFit model fields contents = true)
    (start : Writable types entity id before)
    : (Object.writeContents model fields contents id).Ensures before
        (fun _ after => ContentsWritten types model id fields contents before after) := by
  induction fields generalizing contents before with
  | nil =>
      cases contents with
      | nil => exact .pure (.nil start)
      | cons content contents => simp [Object.contentsFit] at fits
  | cons field fields ih =>
      cases contents with
      | nil => simp [Object.contentsFit] at fits
      | cons content contents =>
          obtain ⟨inside, part⟩ := List.cons_subset.mp part
          simp only [Object.contentsFit, Bool.and_eq_true] at fits
          rw [Object.writeContents]
          refine (writeContent_ensures lawful known start inside
            (each content List.mem_cons_self) fits.1).bind (fun _ middle first => ?_)
          refine (ih part (List.nodup_cons.mp distinct).2 contents
            (fun other listed => each other (List.mem_cons_of_mem _ listed)) fits.2
            (start.confined first.forest first.confined)).mono (fun _ after later => ?_)
          exact .cons start distinct first later

/-- Every object that fits is written, or the job gives up. It never runs on without end.
Witness: induction on the object; the members in its contents are written by the induction hypothesis.
-/
theorem write_ensures (lawful : model.Lawful types) (object : Object)
    : Writes types model object := by
  induction object using Object.induction with
  | step contents each =>
      intro entity id context known fits start
      rw [Object.write]
      rw [Object.fits] at fits
      refine (writeContents_ensures lawful known _ (List.Subset.refl _) (lawful.keys_nodup known)
        contents each fits start).mono (fun _ after written => ?_)
      refine { forest := written.forest, confined := ?_, result := ?_ }
      · exact written.confined.mono (fun x _ ⟨key, _, touched⟩ => touched.reaches)
      · intro record found
        obtain ⟨record', reads, found', typed, _, _, backs, storeds⟩ := written.result found
        refine ⟨.mk reads, by simpa only [Object.ReadsBack] using backs, ?_⟩
        simp only [Object.Stored]
        exact ⟨record', found', typed.trans (start.typed found), storeds⟩

end EntityStore
