import OmsWmsTms.Logistics.Service

/-!
# Waybills that can be issued and found

A number is made of the carrier, the date and eight hash digits of the order, and the column of the
numbers is unique, so that no order has two waybills of a carrier on a day, whatever has become of
the first one.

* `Issues` : a call issues the waybill that it is asked for, and every waybill can be found.
* `Call.Clash` : two requests for one number; `Call.Fits` : a request that fits its row.
* `issues_iff` : the runs that issue every waybill are those without such requests.
-/

namespace OmsWmsTms

namespace Logistics

variable {Items : Type} (jsonb : Items → Option Items)

/-- **A call issues its waybill**, with a new number by which it is found; and so is every other. -/
structure Issues (db : WaybillDb Items) (call : Call Items) (db' : WaybillDb Items) : Prop where
  issued : ∀ req drawn, call = .create req drawn →
    ∃ wb, (createWaybill jsonb req drawn db).1 = .ok wb ∧
      wb.trackingNumber ∉ db.map Waybill.trackingNumber ∧
      getWaybill wb.trackingNumber db' = .ok wb
  found : ∀ wb ∈ db', getWaybill wb.trackingNumber db' = .ok (modelToDict wb)

/-- The texts of a request, with the limits of their columns. -/
def CreateWaybillRequest.texts (req : CreateWaybillRequest Items) : List (String × Option ℕ) :=
  [(req.orderId, some 50), (req.recipientName, some 100), (req.recipientPhone, some 20),
    (req.recipientAddress, none)]

/-- What is requested fits into a row. -/
def Call.Fits : Call Items → Prop
  | .create req _ => (∀ column ∈ req.texts, TextFits column) ∧ (jsonb req.items).isSome
  | _ => True

/-- Two requests of one carrier, on one day of a century, for orders with the same hash digits. -/
def Call.Clash : Call Items → Call Items → Prop
  | .create req drawn, .create req' drawn' => req.carrier = req'.carrier ∧
    dateInCentury drawn.today = dateInCentury drawn'.today ∧
    suffix req.orderId drawn.random = suffix req'.orderId drawn'.random
  | _, _ => False

/-- The number that is requested. -/
def Call.tracking? : Call Items → Option String
  | .create req drawn => some (req.tracking drawn)
  | _ => none

/-! ### Numbers -/

theorem prefixMap_injective : Function.Injective prefixMap := by
  intro carrier carrier' h
  cases carrier <;> cases carrier' <;> first | rfl | exact absurd h (by decide)

theorem length_prefixMap (carrier : CarrierCode) : (prefixMap carrier).toList.length = 2 := by
  cases carrier <;> rfl

/-- **Two numbers are the same exactly when** their carriers, dates and hash digits are. -/
theorem generateTrackingNumber_eq_iff {carrier carrier' : CarrierCode} {orderId orderId' : String}
    {today today' : ℤ} {random random' : Uuid} :
    generateTrackingNumber carrier orderId today random =
        generateTrackingNumber carrier' orderId' today' random' ↔
      carrier = carrier' ∧ dateInCentury today = dateInCentury today' ∧
        suffix orderId random = suffix orderId' random' := by
  constructor
  · intro h
    have hlist := congrArg String.toList h
    simp only [generateTrackingNumber, String.toList_append, String.toList_ofList,
      List.append_assoc] at hlist
    obtain ⟨hcarrier, hlist⟩ :=
      List.append_inj hlist (by rw [length_prefixMap, length_prefixMap])
    obtain ⟨hdate, hsuffix⟩ :=
      List.append_inj hlist (by rw [length_shortDate, length_shortDate])
    exact ⟨prefixMap_injective (String.toList_injective hcarrier),
      shortDate_eq_iff.1 (String.toList_injective hdate), hsuffix⟩
  · rintro ⟨rfl, hdate, hsuffix⟩
    rw [generateTrackingNumber, generateTrackingNumber, shortDate_eq_iff.2 hdate, hsuffix]

theorem clash_iff {call call' : Call Items} :
    call.Clash call' ↔ ∃ tracking ∈ call.tracking?, tracking ∈ call'.tracking? := by
  cases call with
  | create req drawn =>
    cases call' with
    | create req' drawn' =>
      simp only [Call.Clash, Call.tracking?, CreateWaybillRequest.tracking, Option.mem_some_iff,
        exists_eq_left', generateTrackingNumber_eq_iff]
      exact and_congr eq_comm (and_congr eq_comm eq_comm)
    | _ => simp [Call.Clash, Call.tracking?]
  | _ => simp [Call.Clash, Call.tracking?]

/-! ### The texts of a new row -/

/-- A hexadecimal digit. -/
def HexDigit (c : Char) : Prop := ∃ n < 16, Nat.digitChar n = c

theorem digitChar_ne : ∀ n < 16, Nat.digitChar n ≠ Char.ofNat 0 ∧
    (Nat.digitChar n).toUpper ≠ Char.ofNat 0 := by decide

theorem hexDigit_of_mem_toDigits {base n : ℕ} {c : Char} (hbase : 1 < base) (hle : base ≤ 16)
    (h : c ∈ Nat.toDigits base n) : HexDigit c := by
  induction n using Nat.strongRecOn with
  | ind n ih =>
    rw [Nat.toDigits_eq_if hbase] at h
    split_ifs at h with hlt
    · exact ⟨n, by omega, (List.mem_singleton.1 h).symm⟩
    · rcases List.mem_append.1 h with h | h
      · exact ih _ (Nat.div_lt_self (by omega) hbase) h
      · have hmod : n % base < base := Nat.mod_lt _ (by omega)
        exact ⟨n % base, by omega, (List.mem_singleton.1 h).symm⟩

theorem hexDigit_of_mem_leftpad {width base n : ℕ} {c : Char} (hbase : 1 < base) (hle : base ≤ 16)
    (h : c ∈ List.leftpad width '0' (Nat.toDigits base n)) : HexDigit c := by
  rcases List.mem_append.1 h with h | h
  · exact ⟨0, by omega, (List.eq_of_mem_replicate h).symm⟩
  · exact hexDigit_of_mem_toDigits hbase hle h

theorem lt_of_mem_littleEndian {width n byte : ℕ} (h : byte ∈ Md5.littleEndian width n) :
    byte < 256 := by
  induction width generalizing n with
  | zero => cases h
  | succ width ih =>
    rcases List.mem_cons.1 h with rfl | h
    · omega
    · exact ih h

theorem hexDigit_of_mem_md5 {text : String} {c : Char} (h : c ∈ md5 text) : HexDigit c := by
  obtain ⟨word, -, hbytes⟩ := List.mem_flatMap.1 h
  obtain ⟨byte, hbyte, hdigit⟩ := List.mem_flatMap.1 hbytes
  have hlt := lt_of_mem_littleEndian hbyte
  rcases List.mem_cons.1 hdigit with hdigit | hdigit
  · exact ⟨byte / 16, by omega, hdigit.symm⟩
  · exact ⟨byte % 16, by omega, (List.mem_singleton.1 hdigit).symm⟩

theorem nul_notMem_suffix (orderId : String) (random : Uuid) :
    Char.ofNat 0 ∉ suffix orderId random := by
  intro h
  obtain ⟨c, hc, hupper⟩ := List.mem_map.1 h
  have hmem := List.mem_of_mem_take hc
  have hdigit : HexDigit c := by
    split_ifs at hmem
    · exact hexDigit_of_mem_leftpad (by omega) (by omega) hmem
    · exact hexDigit_of_mem_md5 hmem
  obtain ⟨n, hn, rfl⟩ := hdigit
  exact (digitChar_ne n hn).2 hupper

theorem nul_notMem_padded (width : ℕ) (n : ℤ) : Char.ofNat 0 ∉ (padded width n).toList := by
  rw [padded, String.toList_ofList]
  intro h
  obtain ⟨m, hm, hzero⟩ := hexDigit_of_mem_leftpad (by omega) (by omega) h
  exact (digitChar_ne m hm).1 hzero

theorem nul_notMem_prefixMap (carrier : CarrierCode) :
    Char.ofNat 0 ∉ (prefixMap carrier).toList := by cases carrier <;> decide

theorem length_generateTrackingNumber_le (carrier : CarrierCode) (orderId : String) (today : ℤ)
    (random : Uuid) : (generateTrackingNumber carrier orderId today random).length ≤ 50 := by
  have hsuffix : (suffix orderId random).length ≤ 8 := by
    rw [suffix, List.length_map]
    exact List.length_take_le _ _
  rw [← String.length_toList, generateTrackingNumber, String.toList_append,
    String.toList_append, String.toList_ofList, List.length_append, List.length_append,
    length_prefixMap, length_shortDate]
  omega

/-- **A number fits its column.** -/
theorem textFits_generateTrackingNumber (carrier : CarrierCode) (orderId : String) (today : ℤ)
    (random : Uuid) :
    TextFits (generateTrackingNumber carrier orderId today random, some 50) := by
  constructor
  · simp only [generateTrackingNumber, shortDate, String.toList_append, String.toList_ofList,
      List.mem_append, not_or]
    exact ⟨⟨nul_notMem_prefixMap carrier, ⟨nul_notMem_padded _ _, nul_notMem_padded _ _⟩,
      nul_notMem_padded _ _⟩, nul_notMem_suffix _ _⟩
  · intro limit hlimit
    cases hlimit
    exact Text.fitsUpToBlanks_of_length_le (length_generateTrackingNumber_le _ _ _ _)

/-- A new row keeps its number. -/
theorem kept_trackingNumber_newWaybill (req : CreateWaybillRequest Items) (drawn : Drawn) :
    (newWaybill req drawn).kept.trackingNumber = req.tracking drawn :=
  Text.cut_of_length_le (length_generateTrackingNumber_le _ _ _ _)

/-- The number ends every address. -/
theorem toList_getTrackingUrl (carrier : CarrierCode) (tracking : String) :
    (getTrackingUrl carrier tracking).toList =
      ((trackingUrls carrier).headD "").toList ++ tracking.toList := by
  cases carrier <;> simp [getTrackingUrl, trackingUrls, String.intercalate_cons_cons]

theorem textFits_getTrackingUrl (carrier : CarrierCode) {tracking : String} {limit? : Option ℕ}
    (h : TextFits (tracking, limit?)) : TextFits (getTrackingUrl carrier tracking, none) := by
  have hbase : Char.ofNat 0 ∉ ((trackingUrls carrier).headD "").toList := by
    cases carrier <;> decide +kernel
  refine ⟨?_, fun limit hlimit => by cases hlimit⟩
  rw [toList_getTrackingUrl, List.mem_append, not_or]
  exact ⟨hbase, h.1⟩

theorem textFits_carrier (carrier : CarrierCode) : TextFits (carrier.value, some 10) ∧
    TextFits (carrierNames carrier, some 50) := by
  cases carrier <;> decide +kernel

/-- **The texts of a new row fit exactly when** those of the request do. -/
theorem forall_texts_newWaybill_iff (req : CreateWaybillRequest Items) (drawn : Drawn) :
    (∀ column ∈ (newWaybill req drawn).texts, TextFits column) ↔
      ∀ column ∈ req.texts, TextFits column := by
  have htracking : TextFits (req.tracking drawn, some 50) := textFits_generateTrackingNumber _ _ _ _
  have hurl := textFits_getTrackingUrl req.carrier htracking
  have hcarrier := textFits_carrier req.carrier
  have hstatus : TextFits ("created", some 20) := by decide +kernel
  simp only [Waybill.texts, newWaybill, CreateWaybillRequest.texts, List.forall_mem_cons,
    List.not_mem_nil, false_implies, implies_true, and_true, htracking, hurl, hcarrier.1,
    hcarrier.2, hstatus, true_and]

/-! ### The table -/

/-- The numbers and the identifiers are unique, no row has been deleted, and no number has a
character that a query refuses. -/
structure Good (db : WaybillDb Items) : Prop where
  trackings : (db.map Waybill.trackingNumber).Nodup
  ids : (db.map Waybill.id).Nodup
  kept : ∀ isDeleted ∈ db.map Waybill.isDeleted, isDeleted = false
  queried : ∀ tracking ∈ db.map Waybill.trackingNumber, Char.ofNat 0 ∉ tracking.toList

/-- A call that meets the condition. -/
def Call.Ready (db : WaybillDb Items) (call : Call Items) : Prop :=
  call.Fits jsonb ∧ ∀ tracking ∈ call.tracking?, tracking ∉ db.map Waybill.trackingNumber

variable {jsonb} {db db' : WaybillDb Items} {call : Call Items}
  {req : CreateWaybillRequest Items} {drawn : Drawn}

theorem good_nil : Good ([] : WaybillDb Items) :=
  ⟨List.nodup_nil, List.nodup_nil, nofun, nofun⟩

/-- A waybill is found by its number. -/
theorem Good.select (h : Good db) {wb : Waybill Items} (hwb : wb ∈ db) :
    selectWaybill wb.trackingNumber db = .ok wb := by
  have hfilter : (db.filter fun wb' => wb'.trackingNumber = wb.trackingNumber ∧ ¬ wb'.isDeleted) =
      [wb] := by
    rw [← filter_id_of_mem h.trackings hwb]
    refine List.filter_congr fun wb' hwb' => ?_
    simp [h.kept _ (List.mem_map_of_mem hwb')]
  rw [selectWaybill, if_neg (h.queried _ (List.mem_map_of_mem hwb)), hfilter]

theorem Good.get (h : Good db) {wb : Waybill Items} (hwb : wb ∈ db) :
    getWaybill wb.trackingNumber db = .ok (modelToDict wb) := by
  rw [getWaybill, h.select hwb]
  rfl

/-- An `UPDATE` keeps the numbers. -/
theorem Good.update (h : Good db) {i : Uuid} {write : Waybill Items → Waybill Items}
    (hid : ∀ wb, (write wb).id = wb.id)
    (htracking : ∀ wb, (write wb).trackingNumber = wb.trackingNumber)
    (hkept : ∀ wb, (write wb).isDeleted = wb.isDeleted) :
    Good (updateRows Waybill.id i write db) where
  trackings := by rw [map_updateRows htracking]; exact h.trackings
  ids := by rw [map_updateRows hid]; exact h.ids
  kept := by rw [map_updateRows hkept]; exact h.kept
  queried := by rw [map_updateRows htracking]; exact h.queried

/-- The row that an `INSERT` has written is new. -/
theorem Good.insert (h : Good db) {wb : Waybill Items} (hid : wb.id ∉ db.map Waybill.id)
    (htracking : wb.trackingNumber ∉ db.map Waybill.trackingNumber)
    (hkept : wb.isDeleted = false) (hqueried : Char.ofNat 0 ∉ wb.trackingNumber.toList) :
    Good (db ++ [wb]) where
  trackings := nodup_map_concat h.trackings htracking
  ids := nodup_map_concat h.ids hid
  kept := by
    rw [List.map_append, List.map_singleton]
    exact List.forall_mem_append.2 ⟨h.kept, List.forall_mem_singleton.2 hkept⟩
  queried := by
    rw [List.map_append, List.map_singleton]
    exact List.forall_mem_append.2 ⟨h.queried, List.forall_mem_singleton.2 hqueried⟩

/-! ### A call -/

/-- **When a waybill is created**: what is requested fits, and nothing has its number. -/
theorem createWaybill_cases (jsonb : Items → Option Items) (req : CreateWaybillRequest Items)
    (hid : drawn.id ∉ db.map Waybill.id) :
    ((Call.create req drawn).Fits jsonb ∧ req.tracking drawn ∉ db.map Waybill.trackingNumber ∧
      ∃ wb, wb.trackingNumber = req.tracking drawn ∧ wb.id = drawn.id ∧ wb.isDeleted = false ∧
        createWaybill jsonb req drawn db = (.ok (modelToDict wb), db ++ [wb])) ∨
    (¬ ((Call.create req drawn).Fits jsonb ∧
        req.tracking drawn ∉ db.map Waybill.trackingNumber) ∧
      ∃ e, createWaybill jsonb req drawn db = (.error e, db)) := by
  have htexts := forall_texts_newWaybill_iff req drawn
  have hitems : (newWaybill req drawn).items = req.items := rfl
  cases hjsonb : jsonb req.items with
  | none =>
    refine .inr ⟨fun h => ?_, .dataError, ?_⟩
    · have hsome := h.1.2
      rw [hjsonb] at hsome
      cases hsome
    · rw [createWaybill, insertWaybill, hitems, hjsonb]
  | some items =>
    by_cases hfits : ∀ column ∈ req.texts, TextFits column
    · by_cases htracking : req.tracking drawn ∈ db.map Waybill.trackingNumber
      · refine .inr ⟨fun h => h.2 htracking, .integrityError, ?_⟩
        rw [createWaybill, insertWaybill, hitems, hjsonb]
        dsimp only
        rw [if_pos (htexts.2 hfits), kept_trackingNumber_newWaybill, if_pos (.inr htracking)]
      · refine .inl ⟨⟨hfits, Option.isSome_of_eq_some hjsonb⟩, htracking,
          { (newWaybill req drawn).kept with items }, kept_trackingNumber_newWaybill req drawn, rfl,
          rfl, ?_⟩
        have hnew : ¬ ((newWaybill req drawn).id ∈ db.map Waybill.id ∨
            (newWaybill req drawn).kept.trackingNumber ∈ db.map Waybill.trackingNumber) := by
          rw [kept_trackingNumber_newWaybill]
          exact fun h => h.elim hid htracking
        rw [createWaybill, insertWaybill, hitems, hjsonb]
        dsimp only
        rw [if_pos (htexts.2 hfits), if_neg hnew]
    · refine .inr ⟨fun h => hfits h.1.1, .dataError, ?_⟩
      rw [createWaybill, insertWaybill, hitems, hjsonb]
      dsimp only
      rw [if_neg fun h => hfits (htexts.1 h)]

/-- What a call that creates nothing does to the table. -/
theorem exec_update_cases (jsonb : Items → Option Items) (db : WaybillDb Items)
    (h : call.tracking? = none) :
    (call.exec jsonb db).2 = db ∨ ∃ i write,
      (∀ wb : Waybill Items, (write wb).id = wb.id ∧ (write wb).trackingNumber = wb.trackingNumber ∧
        (write wb).isDeleted = wb.isDeleted) ∧
      (call.exec jsonb db).2 = updateRows Waybill.id i write db := by
  cases call with
  | create req drawn => cases h
  | void tracking now =>
    simp only [Call.exec, voidWaybill]
    split
    · exact .inl rfl
    · split_ifs
      · exact .inl rfl
      · exact .inr ⟨_, Waybill.voided now, fun wb => ⟨rfl, rfl, rfl⟩, rfl⟩
  | print tracking printedAt now =>
    simp only [Call.exec, markPrinted]
    split
    · exact .inl rfl
    · split_ifs
      · exact .inr ⟨_, Waybill.printed printedAt now, fun wb => ⟨rfl, rfl, rfl⟩, rfl⟩
      · exact .inl rfl

/-- The calls keep the table good, and only those that create a waybill add its number. -/
theorem good_step (h : Good db) (hstep : (waybillSystem jsonb).step db call db') : Good db' := by
  obtain ⟨hfresh, rfl⟩ := hstep
  cases hcall : call.tracking? with
  | none =>
    rcases exec_update_cases jsonb db hcall with hsame | ⟨i, write, hwrite, hsame⟩
    · rw [hsame]
      exact h
    · rw [hsame]
      exact h.update (fun wb => (hwrite wb).1) (fun wb => (hwrite wb).2.1) fun wb => (hwrite wb).2.2
  | some tracking =>
    cases call with
    | create req drawn =>
      rcases createWaybill_cases jsonb req hfresh with
        ⟨-, hnew, wb, htracking, hid, hkept, hexec⟩ | ⟨-, e, hexec⟩
      · rw [Call.exec, hexec]
        refine h.insert (hid ▸ hfresh) (htracking ▸ hnew) hkept ?_
        rw [htracking]
        exact (textFits_generateTrackingNumber _ _ _ _).1
      · rw [Call.exec, hexec]
        exact h
    | _ => cases hcall

/-- The numbers after a call that meets the condition. -/
theorem trackings_step (hstep : (waybillSystem jsonb).step db call db')
    (hready : call.Ready jsonb db) : db'.map Waybill.trackingNumber =
      db.map Waybill.trackingNumber ++ call.tracking?.toList := by
  obtain ⟨hfresh, rfl⟩ := hstep
  cases hcall : call.tracking? with
  | none =>
    rcases exec_update_cases jsonb db hcall with hsame | ⟨i, write, hwrite, hsame⟩
    · rw [hsame, Option.toList_none, List.append_nil]
    · rw [hsame, map_updateRows fun wb => (hwrite wb).2.1, Option.toList_none, List.append_nil]
  | some tracking =>
    cases call with
    | create req drawn =>
      cases hcall
      rcases createWaybill_cases jsonb req hfresh with
        ⟨-, -, wb, htracking, -, -, hexec⟩ | ⟨hnot, -⟩
      · rw [Call.exec, hexec, List.map_append, List.map_singleton, htracking]
        rfl
      · exact absurd ⟨hready.1, hready.2 _ rfl⟩ hnot
    | _ => cases hcall

/-- **A call issues its waybill exactly when** the request fits and its number is new. -/
theorem issues_iff_ready (h : Good db) (hstep : (waybillSystem jsonb).step db call db') :
    Issues jsonb db call db' ↔ call.Ready jsonb db := by
  have hgood := good_step h hstep
  obtain ⟨hfresh, rfl⟩ := hstep
  have hfound : ∀ wb ∈ (call.exec jsonb db).2,
      getWaybill wb.trackingNumber (call.exec jsonb db).2 = .ok (modelToDict wb) :=
    fun wb hwb => hgood.get hwb
  cases call with
  | create req drawn =>
    rcases createWaybill_cases jsonb req hfresh with
      ⟨hfits, hnew, wb, htracking, -, -, hexec⟩ | ⟨hnot, e, hexec⟩
    · refine iff_of_true ⟨?_, hfound⟩ ⟨hfits, fun tracking h => by cases h; exact hnew⟩
      rintro _ _ ⟨⟩
      refine ⟨modelToDict wb, by rw [hexec], ?_, hfound wb ?_⟩
      · change wb.trackingNumber ∉ _
        rwa [htracking]
      · rw [Call.exec, hexec]
        exact List.mem_append_right _ List.mem_cons_self
    · refine iff_of_false (fun hissues => ?_) fun hready => hnot ⟨hready.1, hready.2 _ rfl⟩
      obtain ⟨wb, hok, -⟩ := hissues.issued req drawn rfl
      rw [hexec] at hok
      cases hok
  | _ => exact iff_of_true ⟨nofun, hfound⟩ ⟨trivial, nofun⟩

/-! ### Runs -/

/-- A run of calls that meet the condition, by the requests alone. -/
theorem guard_run_iff {calls : List (Call Items)} :
    ((waybillSystem jsonb).guard fun db call => call.Ready jsonb db).Run db calls db' ↔
      (waybillSystem jsonb).Run db calls db' ∧ (∀ call ∈ calls, call.Fits jsonb) ∧
        (calls.Pairwise fun call call' => ¬ call.Clash call') ∧
        ∀ call ∈ calls, ∀ tracking ∈ call.tracking?, tracking ∉ db.map Waybill.trackingNumber := by
  induction calls generalizing db with
  | nil =>
    refine ⟨fun h => ?_, fun h => ?_⟩
    · cases h
      exact ⟨.nil _, nofun, .nil, nofun⟩
    · cases h.1
      exact .nil _
  | cons call calls ih =>
    constructor
    · rintro (_ | ⟨⟨hstep, hready⟩, hrun⟩)
      obtain ⟨hrun, hfits, hpairwise, hnew⟩ := ih.1 hrun
      rw [trackings_step hstep hready] at hnew
      refine ⟨.cons hstep hrun, List.forall_mem_cons.2 ⟨hready.1, hfits⟩,
        List.pairwise_cons.2 ⟨fun call' hcall' hclash => ?_, hpairwise⟩,
        List.forall_mem_cons.2 ⟨hready.2, fun call' hcall' tracking htracking hold =>
          hnew call' hcall' tracking htracking (List.mem_append_left _ hold)⟩⟩
      obtain ⟨tracking, htracking, htracking'⟩ := clash_iff.1 hclash
      exact hnew call' hcall' tracking htracking'
        (List.mem_append_right _ (Option.mem_toList.2 htracking))
    · rintro ⟨_ | ⟨hstep, hrun⟩, hfits, hpairwise, hnew⟩
      rw [List.forall_mem_cons] at hfits hnew
      rw [List.pairwise_cons] at hpairwise
      have hready : call.Ready jsonb db := ⟨hfits.1, hnew.1⟩
      refine .cons ⟨hstep, hready⟩ (ih.2 ⟨hrun, hfits.2, hpairwise.2, ?_⟩)
      rw [trackings_step hstep hready]
      intro call' hcall' tracking htracking hmem
      rcases List.mem_append.1 hmem with hold | hold
      · exact hnew.2 call' hcall' tracking htracking hold
      · exact hpairwise.1 call' hcall'
          (clash_iff.2 ⟨tracking, Option.mem_toList.1 hold, htracking⟩)

/-- The runs that issue every waybill, from any good table. -/
theorem issues_iff_of_good (h : Good db) (calls : List (Call Items)) :
    ((waybillSystem jsonb).restrict (Issues jsonb)).Run db calls db' ↔
      (waybillSystem jsonb).Run db calls db' ∧ (∀ call ∈ calls, call.Fits jsonb) ∧
        (calls.Pairwise fun call call' => ¬ call.Clash call') ∧
        ∀ call ∈ calls, ∀ tracking ∈ call.tracking?, tracking ∉ db.map Waybill.trackingNumber := by
  rw [← guard_run_iff]
  exact Lts.Run.restrict_iff_guard (I := Good) (fun _ _ _ h hstep _ => good_step h hstep)
    (fun _ _ _ h hstep => issues_iff_ready h hstep) h

/-- **Every waybill is issued and found exactly when** the requests fit their rows, and no two of
them are of one carrier, on one day of a century, for orders with the same hash digits. -/
theorem issues_iff (jsonb : Items → Option Items) (calls : List (Call Items))
    (db : WaybillDb Items) :
    ((waybillSystem jsonb).restrict (Issues jsonb)).Run [] calls db ↔
      (waybillSystem jsonb).Run [] calls db ∧ (∀ call ∈ calls, call.Fits jsonb) ∧
        calls.Pairwise fun call call' => ¬ call.Clash call' := by
  rw [issues_iff_of_good good_nil]
  exact ⟨fun h => ⟨h.1, h.2.1, h.2.2.1⟩,
    fun h => ⟨h.1, h.2.1, h.2.2, fun _ _ _ _ => List.not_mem_nil⟩⟩

/-- A request for a waybill of order `A1`. -/
def requestA1 : CreateWaybillRequest Unit where
  orderId := "A1"
  recipientName := "Zhang"
  recipientPhone := "13800138000"
  recipientAddress := "Shenzhen"
  items := ()
  carrierCode := "zto"

/-- What is drawn for its first waybill, and an hour later for the second one. -/
def drawnA1 (again : Bool) : Drawn :=
  if again then ⟨2, 0, hour, hour⟩ else ⟨1, 0, 0, 0⟩

/-- A waybill of the order is issued and voided, and is to be issued anew. -/
def reissue : List (Call Unit) :=
  [.create requestA1 (drawnA1 false), .void (requestA1.tracking (drawnA1 false)) 0,
    .create requestA1 (drawnA1 true)]

/-- It cannot be. -/
theorem reissue_not_issued : ∃ db, (waybillSystem some).Run [] reissue db ∧
    ¬ ((waybillSystem some).restrict (Issues some)).Run [] reissue db := by
  refine ⟨_, .cons ⟨List.not_mem_nil, rfl⟩ (.cons ⟨trivial, rfl⟩
    (.cons ⟨by decide +kernel, rfl⟩ (.nil _))), fun h => ?_⟩
  obtain ⟨-, -, hpairwise, -⟩ := (issues_iff_of_good good_nil reissue).1 h
  exact (List.pairwise_cons.1 hpairwise).1 (.create requestA1 (drawnA1 true)) (by simp)
    ⟨rfl, by decide, rfl⟩

end Logistics

end OmsWmsTms
