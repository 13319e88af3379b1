import OmsWmsTms.Data.Unicode
import OmsWmsTms.Logistics.Service

/-!
# Locations of a warehouse

`create_location` of `src/wms/service.py`, with the table of `src/wms/models.py`, whose column `code`
is unique.  The code of a location is put together from the first four characters of the identifier
of its warehouse, the zone, the aisle and the bin; the shelf is not part of it.

* `LocationRequest` : a call; `LocationRequest.code` : the code that it generates.
* `insertLocation`, `createLocation` : what the table refuses, and the service.
* `locationSystem` : calls, one after another.
* `LocationRequest.place`, `LocationRequest.pieces` : where a location is, and what its code is made
  of, cut at the hyphens.
* `code_eq_iff_pieces` : when two calls generate the same code.
* `locationCodes_iff` : when no new place is refused for its code.
-/

namespace OmsWmsTms

namespace Wms

namespace Locations

/-! ### The table -/

/-- `LocationType`. -/
inductive LocationType
  | storage | picking | receiving | shipping | quarantine
deriving DecidableEq

/-- The value of a member. -/
def LocationType.value : LocationType → String
  | storage => "storage"
  | picking => "picking"
  | receiving => "receiving"
  | shipping => "shipping"
  | quarantine => "quarantine"

/-- `LocationType(text)`, which raises a `ValueError` otherwise. -/
def LocationType.ofValue? (text : String) : Option LocationType :=
  [storage, picking, receiving, shipping, quarantine].find? fun type => type.value = text

/-- `Location`. -/
structure Location where
  id : Uuid
  warehouseId : Uuid
  code : String
  zone : String
  aisle : String
  shelf : String
  level : String
  position : String
  locationType : LocationType
  status : String
  isDeleted : Bool
  deletedAt : Option ℤ
  createdAt : ℤ
  updatedAt : ℤ

/-- The warehouses, and the table `locations`. -/
structure LocationDb where
  warehouses : List Uuid
  locations : List Location

/-- The texts of a row, with the limits of their columns. -/
def Location.texts (loc : Location) : List (String × Option ℕ) :=
  [(loc.code, some 50), (loc.zone, some 20), (loc.aisle, some 10), (loc.shelf, some 10),
    (loc.level, some 10), (loc.position, some 50)]

/-- The row, as its columns keep it. -/
def Location.kept (loc : Location) : Location :=
  { loc with
    code := Text.cut 50 loc.code
    zone := Text.cut 20 loc.zone
    aisle := Text.cut 10 loc.aisle
    shelf := Text.cut 10 loc.shelf
    level := Text.cut 10 loc.level
    position := Text.cut 50 loc.position }

/-- The `INSERT` of a row, and its commit. -/
def insertLocation (loc : Location) (db : LocationDb) : Except ServiceError Location :=
  if ∀ column ∈ loc.texts, TextFits column then
    if loc.id ∈ db.locations.map Location.id ∨ loc.kept.code ∈ db.locations.map Location.code ∨
        loc.warehouseId ∉ db.warehouses then
      .error .integrityError
    else .ok loc.kept
  else .error .dataError

/-! ### The service -/

/-- The `data` of a call. -/
structure LocationData where
  zone : Option String
  aisle : Option String
  shelf : Option String
  bin : Option String
  type : Option String

/-- A call of `create_location`, with the new identifier and the time. -/
structure LocationRequest where
  whId : String
  data : LocationData
  id : Uuid
  now : ℤ

namespace LocationRequest

variable (request : LocationRequest)

/-- `zone`. -/
def zone : String := request.data.zone.getD ""

/-- `aisle`. -/
def aisle : String := request.data.aisle.getD ""

/-- `shelf`. -/
def shelf : String := request.data.shelf.getD ""

/-- `bin_val`. -/
def bin : String := request.data.bin.getD ""

/-- `str(wh_id)[:4]`. -/
def shortId : String := String.ofList (request.whId.toList.take 4)

/-- `loc_code`. -/
def code : String :=
  request.shortId ++ "-" ++ request.zone ++ "-" ++ request.aisle ++ "-" ++ request.bin

end LocationRequest

/-- What `create_location` returns. -/
structure LocationDict where
  id : String
  warehouseId : String
  locationCode : String
  zone : String
  aisle : String
  shelf : String
  bin : String
  position : String
  type : String
  status : String
  isDeleted : Bool
  deletedAt : Option String
  createdAt : String
  updatedAt : String
  isOccupied : Bool
deriving DecidableEq

/-- `model_to_dict` of a location, with the names of the response. -/
def locToDict (loc : Location) : LocationDict where
  id := Uuid.text loc.id
  warehouseId := Uuid.text loc.warehouseId
  locationCode := loc.code
  zone := loc.zone
  aisle := loc.aisle
  shelf := loc.shelf
  bin := loc.level
  position := loc.position
  type := loc.locationType.value
  status := loc.status
  isDeleted := loc.isDeleted
  deletedAt := loc.deletedAt.map isoformat
  createdAt := isoformat loc.createdAt
  updatedAt := isoformat loc.updatedAt
  isOccupied := false

/-- The row of a call. -/
def newLocation (request : LocationRequest) (warehouseId : Uuid) (locationType : LocationType) :
    Location where
  id := request.id
  warehouseId
  code := request.code
  zone := request.zone
  aisle := request.aisle
  shelf := request.shelf
  level := request.bin
  position := request.bin
  locationType
  status := "active"
  isDeleted := false
  deletedAt := none
  createdAt := request.now
  updatedAt := request.now

/-- `create_location`. -/
def createLocation (request : LocationRequest) (db : LocationDb) :
    Except ServiceError LocationDict × LocationDb :=
  match Uuid.parse? request.whId with
  | none => (.error .valueError, db)
  | some warehouseId =>
    if warehouseId ∉ db.warehouses then
      (.error (.notFound s!"Warehouse {request.whId} not found"), db)
    else
      match LocationType.ofValue? (request.data.type.getD "storage") with
      | none => (.error .valueError, db)
      | some locationType =>
        match insertLocation (newLocation request warehouseId locationType) db with
        | .error e => (.error e, db)
        | .ok loc => (.ok (locToDict loc), { db with locations := db.locations ++ [loc] })

/-! ### Runs -/

/-- The database, and the calls that have stored a location. -/
structure State where
  db : LocationDb
  stored : List LocationRequest

/-- No location yet. -/
def State.start (warehouses : List Uuid) : State := ⟨⟨warehouses, []⟩, []⟩

/-- A call. -/
def State.next (s : State) (request : LocationRequest) : State :=
  match createLocation request s.db with
  | (.ok _, db) => ⟨db, s.stored ++ [request]⟩
  | (.error _, db) => { s with db }

/-- **The calls**, one after another, each with an identifier that is not in use. -/
def locationSystem : Lts State LocationRequest where
  step s request s' := request.id ∉ s.db.locations.map Location.id ∧ s' = s.next request

/-! ### What is promised -/

/-- Where a location is. -/
structure Place where
  warehouseId : Option Uuid
  zone : String
  aisle : String
  shelf : String
  bin : String
deriving DecidableEq

/-- The place of a call. -/
def LocationRequest.place (request : LocationRequest) : Place where
  warehouseId := Uuid.parse? request.whId
  zone := request.zone
  aisle := request.aisle
  shelf := request.shelf
  bin := request.bin

/-- No location has been stored at the place of a call. -/
def State.IsNew (s : State) (request : LocationRequest) : Prop :=
  ∀ earlier ∈ s.stored, earlier.place ≠ request.place

/-- **The unique constraint does not refuse a new place.** -/
def TakesNew (s : State) (request : LocationRequest) (_ : State) : Prop :=
  s.IsNew request → (createLocation request s.db).1 ≠ .error .integrityError

/-- A call that reaches the table with values that fit. -/
structure Reaches (db : LocationDb) (request : LocationRequest) : Prop where
  warehouse : ∃ id ∈ db.warehouses, Uuid.parse? request.whId = some id
  type : (LocationType.ofValue? (request.data.type.getD "storage")).isSome
  texts : ∀ column ∈ [(request.code, some 50), (request.zone, some 20), (request.aisle, some 10),
    (request.shelf, some 10), (request.bin, some 10)], TextFits column

/-- What a code is made of: the first characters of the identifier of the warehouse, the zone, the
aisle and the bin, cut at their hyphens. -/
def LocationRequest.pieces (request : LocationRequest) : List (List Char) :=
  [request.shortId, request.zone, request.aisle, request.bin].flatMap fun text =>
    text.toList.splitOn '-'

/-- A request without the blanks of its bin that the column of the code cuts off. -/
def LocationRequest.kept (request : LocationRequest) : LocationRequest :=
  let before := request.shortId ++ "-" ++ request.zone ++ "-" ++ request.aisle ++ "-"
  { request with
    data := { request.data with bin := some (Text.cut (50 - before.length) request.bin) } }

/-- A call for a new place has pieces of its own. -/
def OwnPieces (s : State) (request : LocationRequest) : Prop :=
  Reaches s.db request → s.IsNew request →
    ∀ earlier ∈ s.stored, earlier.kept.pieces ≠ request.kept.pieces

variable {s s' : State} {request request' : LocationRequest} {db : LocationDb}

/-! ### Codes -/

/-- A code, cut at its hyphens. -/
theorem splitOn_code (request : LocationRequest) :
    request.code.toList.splitOn '-' = request.pieces := by
  have hcode : request.code.toList = request.shortId.toList ++ '-' :: (request.zone.toList ++
      '-' :: (request.aisle.toList ++ '-' :: request.bin.toList)) := by
    simp [LocationRequest.code]
  rw [hcode, List.splitOn_append_cons_self, List.splitOn_append_cons_self,
    List.splitOn_append_cons_self]
  simp [LocationRequest.pieces]

/-- **Two codes are the same exactly when** their pieces are. -/
theorem code_eq_iff_pieces : request.code = request'.code ↔ request.pieces = request'.pieces := by
  rw [← splitOn_code, ← splitOn_code]
  constructor
  · intro h
    rw [h]
  · intro h
    have hjoin := congrArg (['-'].intercalate) h
    rw [List.intercalate_splitOn, List.intercalate_splitOn] at hjoin
    exact String.toList_injective hjoin

/-- **What the column keeps of a code** loses nothing but blanks of the bin. -/
theorem code_kept (h : Text.FitsUpToBlanks 50 request.code) :
    request.kept.code = Text.cut 50 request.code := by
  obtain ⟨before, hbefore⟩ : ∃ before, before = request.shortId ++ "-" ++ request.zone ++ "-" ++
    request.aisle ++ "-" := ⟨_, rfl⟩
  have hcode : request.code.toList = before.toList ++ request.bin.toList := by
    rw [hbefore, ← String.toList_append]
    rfl
  have hkept : request.kept.code.toList =
      before.toList ++ request.bin.toList.take (50 - before.toList.length) := by
    have hbin : request.kept.code = before ++ Text.cut (50 - before.length) request.bin := by
      rw [hbefore]
      rfl
    rw [hbin, String.toList_append, Text.cut, String.toList_ofList, String.length_toList]
  -- the last hyphen is within the limit, since it is no blank
  have hle : before.toList.length ≤ 50 := by
    by_contra hlong
    have hlast : '-' ∈ before.toList.drop 50 := by
      rw [hbefore, String.toList_append, List.drop_append_of_le_length]
      · exact List.mem_append_right _ (by decide)
      · rw [hbefore, String.toList_append, List.length_append] at hlong
        exact Nat.le_of_lt_succ (not_le.1 hlong)
    have hblank : '-' = ' ' := h '-' (by
      rw [hcode, List.drop_append_of_le_length (not_le.1 hlong).le]
      exact List.mem_append_left _ hlast)
    exact absurd hblank (by decide)
  refine String.toList_injective ?_
  rw [hkept, Text.cut, String.toList_ofList, hcode, List.take_append, List.take_of_length_le hle]

/-! ### A call -/

theorem textFits_newLocation_iff {warehouseId : Uuid} {locationType : LocationType} :
    (∀ column ∈ (newLocation request warehouseId locationType).texts, TextFits column) ↔
      ∀ column ∈ [(request.code, some 50), (request.zone, some 20), (request.aisle, some 10),
        (request.shelf, some 10), (request.bin, some 10)], TextFits column := by
  -- the bin is in two columns, and the second one is longer
  have hbin : TextFits (request.bin, some 10) → TextFits (request.bin, some 50) := by
    rintro ⟨hnul, hfits⟩
    refine ⟨hnul, fun limit hlimit => ?_⟩
    obtain rfl := Option.mem_some_iff.1 hlimit
    exact (hfits 10 rfl).mono (by decide)
  simp only [Location.texts, newLocation, List.forall_mem_cons]
  constructor
  · rintro ⟨hcode, hzone, haisle, hshelf, hlevel, -, hnil⟩
    exact ⟨hcode, hzone, haisle, hshelf, hlevel, hnil⟩
  · rintro ⟨hcode, hzone, haisle, hshelf, hlevel, hnil⟩
    exact ⟨hcode, hzone, haisle, hshelf, hlevel, hbin hlevel, hnil⟩

/-- A call that reaches the table is stored, unless its code is there. -/
theorem createLocation_of_reaches (hid : request.id ∉ db.locations.map Location.id)
    (h : Reaches db request) :
    (request.kept.code ∉ db.locations.map Location.code ∧
      ∃ loc dict, loc.code = request.kept.code ∧
        createLocation request db = (.ok dict, { db with locations := db.locations ++ [loc] })) ∨
    (request.kept.code ∈ db.locations.map Location.code ∧
      createLocation request db = (.error .integrityError, db)) := by
  obtain ⟨warehouseId, hwarehouse, hparse⟩ := h.warehouse
  obtain ⟨locationType, htype⟩ := Option.isSome_iff_exists.1 h.type
  have htexts : ∀ column ∈ (newLocation request warehouseId locationType).texts,
      TextFits column := textFits_newLocation_iff.2 h.texts
  have hkept : (newLocation request warehouseId locationType).kept.code = request.kept.code := by
    rw [code_kept ((h.texts _ List.mem_cons_self).2 50 rfl)]
    rfl
  simp only [createLocation, hparse, htype, if_neg (not_not.2 hwarehouse), insertLocation,
    if_pos htexts, hkept]
  by_cases hcode : request.kept.code ∈ db.locations.map Location.code
  · rw [if_pos (.inr (.inl hcode))]
    exact .inr ⟨hcode, rfl⟩
  · rw [if_neg fun h => h.elim hid fun h => h.elim hcode fun h => h hwarehouse]
    exact .inl ⟨hcode, (newLocation request warehouseId locationType).kept, _, hkept, rfl⟩

/-- Any other call fails before the table is asked. -/
theorem createLocation_of_not_reaches (h : ¬ Reaches db request) :
    ∃ e, e ≠ .integrityError ∧ createLocation request db = (.error e, db) := by
  unfold createLocation
  cases hparse : Uuid.parse? request.whId with
  | none => exact ⟨_, by simp, rfl⟩
  | some warehouseId =>
    dsimp only
    by_cases hwarehouse : warehouseId ∈ db.warehouses
    · rw [if_neg (not_not.2 hwarehouse)]
      cases htype : LocationType.ofValue? (request.data.type.getD "storage") with
      | none => exact ⟨_, by simp, rfl⟩
      | some locationType =>
        have htexts : ¬ ∀ column ∈ (newLocation request warehouseId locationType).texts,
            TextFits column := fun htexts =>
          h ⟨⟨warehouseId, hwarehouse, hparse⟩, by rw [htype]; rfl,
            textFits_newLocation_iff.1 htexts⟩
        simp only [insertLocation, if_neg htexts]
        exact ⟨_, by simp, rfl⟩
    · rw [if_pos hwarehouse]
      exact ⟨_, by simp, rfl⟩

/-- **What comes of a call.** -/
theorem createLocation_cases (hid : request.id ∉ db.locations.map Location.id) :
    (Reaches db request ∧ request.kept.code ∉ db.locations.map Location.code ∧
      ∃ loc dict, loc.code = request.kept.code ∧
        createLocation request db = (.ok dict, { db with locations := db.locations ++ [loc] })) ∨
    (Reaches db request ∧ request.kept.code ∈ db.locations.map Location.code ∧
      createLocation request db = (.error .integrityError, db)) ∨
    (¬ Reaches db request ∧ ∃ e, e ≠ .integrityError ∧
      createLocation request db = (.error e, db)) := by
  by_cases h : Reaches db request
  · rcases createLocation_of_reaches hid h with hstored | hrefused
    · exact .inl ⟨h, hstored⟩
    · exact .inr (.inl ⟨h, hrefused⟩)
  · exact .inr (.inr ⟨h, createLocation_of_not_reaches h⟩)

/-! ### Runs -/

/-- The codes in the table are those of the calls that have stored a location. -/
def State.Coded (s : State) : Prop :=
  s.db.locations.map Location.code = s.stored.map fun request => request.kept.code

theorem coded_start (warehouses : List Uuid) : (State.start warehouses).Coded := rfl

theorem State.Coded.next (h : s.Coded) (hstep : locationSystem.step s request s') : s'.Coded := by
  obtain ⟨hid, hs⟩ := hstep
  rw [hs]
  unfold State.next
  rcases createLocation_cases hid with
    ⟨-, -, loc, dict, hcode, hexec⟩ | ⟨-, -, hexec⟩ | ⟨-, e, -, hexec⟩ <;> rw [hexec]
  · unfold State.Coded at *
    rw [List.map_append, List.map_append, h, List.map_singleton, List.map_singleton, hcode]
  · exact h
  · exact h

/-- **A call for a new place is not refused exactly when** it has pieces of its own. -/
theorem takesNew_iff (h : s.Coded) (hstep : locationSystem.step s request s') :
    TakesNew s request s' ↔ OwnPieces s request := by
  have hcodes : request.kept.code ∈ s.db.locations.map Location.code ↔
      ∃ earlier ∈ s.stored, earlier.kept.pieces = request.kept.pieces := by
    rw [h, List.mem_map]
    simp only [code_eq_iff_pieces]
  unfold TakesNew OwnPieces
  rcases createLocation_cases hstep.1 with
    ⟨-, hnew, loc, dict, -, hexec⟩ | ⟨hreaches, htaken, hexec⟩ | ⟨hnot, e, he, hexec⟩
  · rw [hexec]
    refine iff_of_true (fun _ => nofun) fun _ _ earlier hearlier heq => hnew ?_
    exact hcodes.2 ⟨earlier, hearlier, heq⟩
  · rw [hexec]
    obtain ⟨earlier, hearlier, heq⟩ := hcodes.1 htaken
    constructor
    · exact fun h _ hnew => absurd rfl (h hnew)
    · exact fun h hnew => absurd heq (h hreaches hnew earlier hearlier)
  · rw [hexec]
    exact iff_of_true (fun _ h => he (Except.error.inj h)) fun hreaches => absurd hreaches hnot

/-- **When codes are names**: two calls that differ in their places generate different codes exactly
when their pieces differ; and the runs in which no new place is refused for its code are those in
which every call for a new place has pieces of its own. -/
theorem locationCodes_iff (request request' : LocationRequest) (warehouses : List Uuid)
    (requests : List LocationRequest) (s : State) :
    ((request.place ≠ request'.place → request.code ≠ request'.code) ↔
      (request.place ≠ request'.place → request.pieces ≠ request'.pieces)) ∧
    ((locationSystem.restrict TakesNew).Run (.start warehouses) requests s ↔
      (locationSystem.guard OwnPieces).Run (.start warehouses) requests s) := by
  constructor
  · rw [Ne, Ne, Ne, code_eq_iff_pieces]
  · exact Lts.Run.restrict_iff_guard (fun _ _ _ h hstep _ => h.next hstep)
      (fun _ _ _ h hstep => takesNew_iff h hstep) (coded_start warehouses)

/-! ### Two shelves -/

/-- A bin on a shelf of warehouse 1. -/
def shelfRequest (shelf : String) (id : Uuid) : LocationRequest where
  whId := "00000000-0000-0000-0000-000000000001"
  data := ⟨some "A", some "01", some shelf, some "03", none⟩
  id
  now := 0

/-- **The bins of two shelves** have the same code, and the second one is refused. -/
theorem secondShelf_refused :
    (shelfRequest "1" 5).place ≠ (shelfRequest "2" 6).place ∧
    (shelfRequest "1" 5).code = "0000-A-01-03" ∧ (shelfRequest "2" 6).code = "0000-A-01-03" ∧
    ∃ s, locationSystem.Run (.start [1]) [shelfRequest "1" 5, shelfRequest "2" 6] s ∧
      ¬ (locationSystem.restrict TakesNew).Run (.start [1])
        [shelfRequest "1" 5, shelfRequest "2" 6] s := by
  refine ⟨by decide +kernel, by decide +kernel, by decide +kernel, _,
    .cons ⟨by decide +kernel, rfl⟩ (.single ⟨by decide +kernel, rfl⟩), fun h => ?_⟩
  cases h with
  | cons hfirst hrest =>
    have hs := hfirst.1.2
    subst hs
    cases hrest with
    | cons hsecond _ =>
      refine hsecond.2 ?_ (by decide +kernel)
      unfold State.IsNew
      decide +kernel

end Locations

end Wms

end OmsWmsTms
