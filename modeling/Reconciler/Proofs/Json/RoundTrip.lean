import Reconciler.Object.Meta
import Reconciler.Proofs.Time.Rfc3339
/-!
Values that survive being written.  A value that was read from JSON is read again from what it is
written as, except that its times are cut off to the places that they are written with.
-/
namespace Reconciler.Json

/-- A reader reads what the writer makes of the values that it reads, with what is lost of their
times; it makes null of none but null. -/
structure RoundTrips {α : Type} (decode : Json → Option α) (encode : α → Json)
    (truncate : α → α) (times : α → List Instant) : Prop where
  ne_null : ∀ {json : Json} {value : α}, decode json = some value → json ≠ .null →
    encode value ≠ .null
  decode_encode : ∀ {json : Json} {value : α}, decode json = some value →
    (∀ t ∈ times value, t.Civil) → decode (encode value) = some (truncate value)

/-- Values without times survive as they are. -/
abbrev Survives {α : Type} (decode : Json → Option α) (encode : α → Json) : Prop :=
  RoundTrips decode encode id fun _ => []

theorem survives_string : Survives asString? .str where
  ne_null _ _ := by simp
  decode_encode _ _ := rfl

theorem survives_bool : Survives asBool? .bool where
  ne_null _ _ := by simp
  decode_encode _ _ := rfl

theorem survives_int (bits : Nat) : Survives (asInt? bits) .int where
  ne_null _ _ := by simp
  decode_encode {json value} hread _ := by
    cases json with
    | int number =>
        have hnumber : number = value := by
          simp only [asInt?] at hread
          split at hread
          · exact Option.some.inj hread
          · cases hread
        rw [hnumber] at hread
        exact hread
    | _ => cases hread

/-- Any value at all. -/
theorem survives_some : Survives some id where
  ne_null hread hne := by
    cases hread
    exact hne
  decode_encode _ _ := rfl

theorem survives_object : Survives asObject? id where
  ne_null {json value} hread _ := by
    cases json <;> cases hread
    simp
  decode_encode {json value} hread _ := by
    cases json <;> cases hread
    rfl

/-- A time that is written in whole seconds. -/
theorem roundTrips_seconds : RoundTrips asTime? (time 0) Instant.truncate fun t => [t] where
  ne_null _ _ := by simp [time]
  decode_encode {json t} _ hcivil := by
    have ht : t.Civil := hcivil t List.mem_cons_self
    rw [time, asTime?, asString?, Option.bind_some,
      Rfc3339.readsParts_parseRelaxed?.read_write_zero ht]

theorem time_truncate (t : Instant) : time 0 t.truncate = time 0 t := by
  rw [time, time, Rfc3339.write_truncate]

/-- A time that is written in microseconds. -/
theorem roundTrips_micros : RoundTrips asTime? (time 6) Instant.truncateMicros fun t => [t] where
  ne_null _ _ := by simp [time]
  decode_encode {json t} _ hcivil := by
    have ht : t.Civil := hcivil t List.mem_cons_self
    rw [time, asTime?, asString?, Option.bind_some,
      Rfc3339.readsParts_parseRelaxed?.read_write_six ht]

theorem mapM_cons_eq_some_iff {α β : Type} {change : α → Option β} {first : α} {rest : List α}
    {values : List β} :
    (first :: rest).mapM change = some values ↔
      ∃ value others, change first = some value ∧ rest.mapM change = some others ∧
        values = value :: others := by
  rw [List.mapM_cons]
  constructor
  · intro hmap
    obtain ⟨value, hfirst, hmap⟩ := Option.bind_eq_some_iff.1 hmap
    obtain ⟨others, hothers, hvalues⟩ := Option.bind_eq_some_iff.1 hmap
    exact ⟨value, others, hfirst, hothers, (Option.some.inj hvalues).symm⟩
  · rintro ⟨value, others, hfirst, hothers, rfl⟩
    exact Option.bind_eq_some_iff.2
      ⟨value, hfirst, Option.bind_eq_some_iff.2 ⟨others, hothers, rfl⟩⟩

variable {α : Type} {decode : Json → Option α} {encode : α → Json} {truncate : α → α}
  {times : α → List Instant} {name : String}

/-- A list survives if its items do. -/
theorem RoundTrips.list (h : RoundTrips decode encode truncate times) :
    RoundTrips (asList? decode) (fun values => .arr (values.map encode)) (List.map truncate)
      (List.flatMap times) where
  ne_null _ _ := by simp
  decode_encode {json values} hread hcivil := by
    cases json with
    | arr items =>
        change (values.map encode).mapM decode = some (values.map truncate)
        have hitems : items.mapM decode = some values := hread
        clear hread
        induction items generalizing values with
        | nil =>
            cases hitems
            rfl
        | cons item rest ih =>
            obtain ⟨value, others, hvalue, hothers, rfl⟩ := mapM_cons_eq_some_iff.1 hitems
            simp only [List.flatMap_cons, List.mem_append] at hcivil
            have hfirst := h.decode_encode hvalue fun t hmem => hcivil t (.inl hmem)
            have hrest := ih (fun t hmem => hcivil t (.inr hmem)) hothers
            exact mapM_cons_eq_some_iff.2 ⟨_, _, hfirst, hrest, rfl⟩
    | _ => cases hread

theorem Survives.list (h : Survives decode encode) :
    Survives (asList? decode) fun values => .arr (values.map encode) where
  ne_null _ _ := by simp
  decode_encode {json values} hread _ := by
    have hlist := RoundTrips.list h
    have hvalues := hlist.decode_encode hread (by simp)
    rwa [List.map_id] at hvalues

/-- The values of a map were each read from something. -/
theorem exists_of_mem_asMap? {json : Json} {map : SortedMap String α}
    (hread : json.asMap? decode = some map) {entry : String × α} (hentry : entry ∈ map.entries) :
    ∃ field, decode field = some entry.2 := by
  cases json with
  | obj fields =>
      obtain ⟨pairs, hpairs, rfl⟩ := Option.map_eq_some_iff.1 hread
      replace hentry := Entries.mem_of_mem_ofList hentry
      clear hread
      induction fields generalizing pairs with
      | nil =>
          cases hpairs
          cases hentry
      | cons field rest ih =>
          obtain ⟨pair, others, hpair, hothers, rfl⟩ := mapM_cons_eq_some_iff.1 hpairs
          obtain ⟨value, hvalue, rfl⟩ := Option.map_eq_some_iff.1 hpair
          rcases List.mem_cons.1 hentry with rfl | hlater
          · exact ⟨field.2, hvalue⟩
          · exact ih others hothers hlater
  | _ => cases hread

/-- A map survives if its values do: its entries stand in order already. -/
theorem RoundTrips.map (h : RoundTrips decode encode truncate times) :
    RoundTrips (asMap? decode)
      (fun map : SortedMap String α =>
        .obj (map.entries.map fun entry => (entry.1, encode entry.2)))
      (SortedMap.mapValues truncate) (fun map => map.values.flatMap times) where
  ne_null _ _ := by simp
  decode_encode {json map} hread hcivil := by
    have hentries : ∀ entries : List (String × α), (∀ entry ∈ entries, entry ∈ map.entries) →
        (entries.map fun entry => (entry.1, encode entry.2)).mapM
            (fun field => (decode field.2).map (field.1, ·)) =
          some (entries.map fun entry => (entry.1, truncate entry.2)) := by
      intro entries hentries
      induction entries with
      | nil => rfl
      | cons entry rest ih =>
          obtain ⟨hentry, hrest⟩ := List.forall_mem_cons.1 hentries
          obtain ⟨field, hfield⟩ := exists_of_mem_asMap? hread hentry
          have hvalue := h.decode_encode hfield fun t ht => hcivil t (List.mem_flatMap.2
            ⟨entry.2, SortedMap.mem_values_iff.2 ⟨entry.1, hentry⟩, ht⟩)
          refine mapM_cons_eq_some_iff.2 ⟨(entry.1, truncate entry.2), _, ?_, ih hrest, rfl⟩
          rw [hvalue]
          rfl
    have hmap := hentries map.entries fun _ hentry => hentry
    simp only [asMap?, hmap, Option.map_some]
    exact congrArg some (SortedMap.ofList_entries (map.mapValues truncate))

theorem Survives.map (h : Survives decode encode) :
    Survives (asMap? decode) fun map : SortedMap String α =>
      .obj (map.entries.map fun entry => (entry.1, encode entry.2)) where
  ne_null _ _ := by simp
  decode_encode {json map} hread _ := by
    have hmap := RoundTrips.map h
    have hvalues := hmap.decode_encode hread (by simp)
    rwa [SortedMap.mapValues_id] at hvalues

theorem survives_strings : Survives (asList? asString?) strings :=
  survives_string.list

/-- Any list of strings is read again. -/
theorem asList?_strings (items : List String) :
    asList? asString? (.strings items) = some items := by
  change (items.map Json.str).mapM asString? = some items
  induction items with
  | nil => rfl
  | cons item rest ih =>
      rw [List.map_cons]
      exact mapM_cons_eq_some_iff.2 ⟨item, rest, rfl, ih, rfl⟩

theorem survives_stringMap : Survives (asMap? asString?) stringMap :=
  survives_string.map

theorem optional?_eq_some_iff {json : Json} {value : Option α} :
    json.optional? decode name = some value ↔
      ((json.field? name).getD .null = .null ∧ value = none) ∨
        ∃ field found, json.field? name = some field ∧ field ≠ .null ∧
          decode field = some found ∧ value = some found := by
  unfold optional?
  split
  · rename_i hfield
    simp [hfield, eq_comm]
  · rename_i hfield
    simp [hfield, eq_comm]
  · rename_i field hnull hfield
    have hne : field ≠ .null := by
      rintro rfl
      exact hnull rfl
    simp [hfield, hne, Option.map_eq_some_iff, eq_comm]

/-- A field that may be unset is read again if it is written. -/
theorem RoundTrips.optional? (h : RoundTrips decode encode truncate times) {json written : Json}
    {value : Option α} (hread : json.optional? decode name = some value)
    (hcivil : ∀ found ∈ value, ∀ t ∈ times found, t.Civil)
    (hfield : written.field? name = value.map encode) :
    written.optional? decode name = some (value.map truncate) := by
  rw [optional?_eq_some_iff] at hread ⊢
  rcases hread with ⟨-, rfl⟩ | ⟨field, found, -, hne, hfound, rfl⟩
  · exact .inl ⟨by rw [hfield]; rfl, rfl⟩
  · refine .inr ⟨encode found, truncate found, hfield, h.ne_null hfound hne, ?_, rfl⟩
    exact h.decode_encode hfound (hcivil found rfl)

theorem Survives.optional? (h : Survives decode encode) {json written : Json} {value : Option α}
    (hread : json.optional? decode name = some value)
    (hfield : written.field? name = value.map encode) :
    written.optional? decode name = some value := by
  have hwritten := RoundTrips.optional? h hread (by simp) hfield
  rwa [Option.map_id_fun, id_eq] at hwritten

/-- What a field with a default reads as is read from some value; from null only the default is. -/
theorem exists_of_defaulted? {json blank : Json} {default value : α}
    (hblank : decode blank = some default)
    (hread : json.defaulted? decode default name = some value) :
    ∃ field, decode field = some value ∧ (field = .null → blank = .null ∧ value = default) := by
  obtain ⟨set, hset, rfl⟩ := Option.map_eq_some_iff.1 hread
  rcases optional?_eq_some_iff.1 hset with ⟨-, rfl⟩ | ⟨field, found, -, hnull, hfound, rfl⟩
  · exact ⟨blank, hblank, fun hnull => ⟨hnull, rfl⟩⟩
  · exact ⟨field, hfound, fun hsame => absurd hsame hnull⟩

/-- A field with a default that some value reads as is read again if it is written. -/
theorem RoundTrips.defaulted? (h : RoundTrips decode encode truncate times)
    {json written blank : Json} {default value : α} (hblank : decode blank = some default)
    (hnull : blank = .null → truncate default = default)
    (hread : json.defaulted? decode default name = some value)
    (hcivil : ∀ t ∈ times value, t.Civil) (hfield : written.field? name = some (encode value)) :
    written.defaulted? decode default name = some (truncate value) := by
  obtain ⟨field, hdecode, hfrom⟩ := exists_of_defaulted? hblank hread
  by_cases hencode : encode value = .null
  · -- What is written as null is read as unset, which only the default can be.
    have hsource : field = .null := by
      by_contra hne
      exact h.ne_null hdecode hne hencode
    obtain ⟨hunset, rfl⟩ := hfrom hsource
    refine Option.map_eq_some_iff.2 ⟨none, ?_, (hnull hunset).symm⟩
    exact optional?_eq_some_iff.2 (.inl ⟨by rw [hfield]; exact hencode, rfl⟩)
  · refine Option.map_eq_some_iff.2 ⟨some (truncate value), ?_, rfl⟩
    exact optional?_eq_some_iff.2 (.inr ⟨encode value, truncate value, hfield, hencode,
      h.decode_encode hdecode hcivil, rfl⟩)

/-- A text that is empty where it is unset. -/
theorem survives_text {json written : Json} {value : String}
    (hread : json.defaulted? asString? "" name = some value)
    (hfield : written.field? name = some (.str value)) :
    written.defaulted? asString? "" name = some value :=
  survives_string.defaulted? (show asString? (.str "") = some "" from rfl) (fun _ => rfl) hread
    (by simp) hfield

theorem present_ne_null (fields : List (String × Option Json)) : present fields ≠ .null := by
  simp [present, ofFields]

theorem keys_present_sublist (fields : List (String × Option Json)) :
    ((fields.filterMap fun field => field.2.map (field.1, ·)).map (·.1)).Sublist
      (fields.map (·.1)) := by
  induction fields with
  | nil => exact .slnil
  | cons field rest ih =>
      obtain ⟨key, set⟩ := field
      cases set with
      | none => exact ih.cons key
      | some value => exact ih.cons_cons key

/-- The fields of a written object are those that are set. -/
theorem field?_present {fields : List (String × Option Json)} {value : Option Json}
    (hnames : (fields.map (·.1)).Nodup) (hmem : (name, value) ∈ fields) :
    (present fields).field? name = value := by
  have hkeys := hnames.sublist (keys_present_sublist fields)
  rw [present, ofFields, field?, Entries.get?_ofList hkeys]
  clear hkeys
  induction fields with
  | nil => cases hmem
  | cons field rest ih =>
      obtain ⟨key, set⟩ := field
      obtain ⟨hfirst, hrest⟩ := List.nodup_cons.1 hnames
      rcases List.mem_cons.1 hmem with hsame | hlater
      · obtain ⟨rfl, rfl⟩ := Prod.mk.inj hsame
        cases value with
        | none =>
            refine Entries.get?_eq_none_of_not_mem fun hkey => hfirst ?_
            exact (keys_present_sublist rest).subset hkey
        | some value => exact if_pos Std.ReflCmp.compare_self
      · have hne : compare name key ≠ .eq := by
          intro hsame
          obtain rfl := Std.LawfulEqOrd.eq_of_compare hsame
          exact hfirst (List.mem_map.2 ⟨_, hlater, rfl⟩)
        cases set with
        | none => exact ih hrest hlater
        | some found => exact (if_neg hne).trans (ih hrest hlater)

/-- The field of a name is what stands beside the name. -/
theorem field?_present_eq {fields : List (String × Option Json)}
    (hnames : (fields.map (·.1)).Nodup) (name : String) :
    (present fields).field? name = (fields.lookup name).join := by
  cases hlookup : fields.lookup name with
  | none =>
      have habsent : name ∉ fields.map (·.1) := by
        intro hmem
        obtain ⟨field, hfield, rfl⟩ := List.mem_map.1 hmem
        simpa using List.lookup_eq_none_iff.1 hlookup field hfield
      have hkeys := keys_present_sublist fields
      rw [present, ofFields, field?, Entries.get?_ofList (hnames.sublist hkeys)]
      exact Entries.get?_eq_none_of_not_mem fun hmem => habsent (hkeys.subset hmem)
  | some value =>
      obtain ⟨front, back, rfl, -⟩ := List.lookup_eq_some_iff.1 hlookup
      exact field?_present hnames (by simp)

end Reconciler.Json
