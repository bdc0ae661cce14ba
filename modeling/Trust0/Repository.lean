import Mathlib.Data.List.Dedup
import Trust0.Model
/-
The in-memory repositories of `repository/access_repo/in_memory_repo.rs` and
`repository/service_repo/in_memory_repo.rs`. Both keep their records in a `HashMap` under a
key the record carries, so both are one keyed store with two key functions: an access under
`(user_id, service_id)`, a service under `service_id`.

`connect_to_datasource` reads and parses a JSON file and then puts each record in order; the
file read and the parse are outside the model and reach it as their result. The locks around
the maps are only poisoned by a panic while held, which none of these functions can raise, so
their errors are left out.
-/

namespace Trust0

section Keyed

variable {K V : Type} [DecidableEq K] (keyOf : V → K)

/-- `put`: `HashMap::insert` under the record's own key, returning the record it replaced. -/
def keyedPut (data : HashMap K V) (record : V) : Option V × HashMap K V :=
  (data.lookup (keyOf record), data.insert (keyOf record) record)

/-- `delete`: `HashMap::remove`, returning the record the key held. -/
def keyedDelete (data : HashMap K V) (key : K) : Option V × HashMap K V :=
  (data.lookup key, data.erase key)

/-- The puts of `connect_to_datasource`, one per parsed record, in order. -/
def keyedLoad (data : HashMap K V) (records : List V) : HashMap K V :=
  records.foldl (fun data record => (keyedPut keyOf data record).2) data

/-- `connect_to_datasource` given the result of reading and parsing its file: a read or parse
error is returned before any record is put. -/
def keyedConnect (data : HashMap K V) (records : Except AppError (List V)) :
    Except AppError Unit × HashMap K V :=
  match records with
  | .error err => (.error err, data)
  | .ok records => (.ok (), keyedLoad keyOf data records)

/-- The records whose key satisfies `q`, in the map's iteration order. -/
def keyedValuesWhere (q : K → Prop) [DecidablePred q] (data : HashMap K V) : List V :=
  (data.entries.filter fun entry => q entry.1).map (·.2)

end Keyed

/-! ## The two repositories -/

/-- The key `InMemAccessRepo` files an access under. -/
def ServiceAccess.key (access : ServiceAccess) : UInt64 × UInt64 :=
  (access.userId, access.serviceId)

/-- In-memory service access store. -/
structure InMemAccessRepo where
  accesses : HashMap (UInt64 × UInt64) ServiceAccess

namespace InMemAccessRepo

/-- Creates a new in-memory service access store. -/
def new : InMemAccessRepo := ⟨∅⟩

def put (repo : InMemAccessRepo) (access : ServiceAccess) :
    Option ServiceAccess × InMemAccessRepo :=
  let (previous, accesses) := keyedPut ServiceAccess.key repo.accesses access
  (previous, ⟨accesses⟩)

def get (repo : InMemAccessRepo) (userId serviceId : UInt64) : Option ServiceAccess :=
  repo.accesses.lookup (userId, serviceId)

/-- `get_all_for_user`: the entries whose key's user id is `userId`. -/
def getAllForUser (repo : InMemAccessRepo) (userId : UInt64) : List ServiceAccess :=
  keyedValuesWhere (fun key : UInt64 × UInt64 => key.1 = userId) repo.accesses

def delete (repo : InMemAccessRepo) (userId serviceId : UInt64) :
    Option ServiceAccess × InMemAccessRepo :=
  let (previous, accesses) := keyedDelete repo.accesses (userId, serviceId)
  (previous, ⟨accesses⟩)

def connectToDatasource (repo : InMemAccessRepo)
    (accesses : Except AppError (List ServiceAccess)) : Except AppError Unit × InMemAccessRepo :=
  let (result, accesses) := keyedConnect ServiceAccess.key repo.accesses accesses
  (result, ⟨accesses⟩)

/-- A file that does not read or parse leaves the store as it was. -/
@[simp] theorem connectToDatasource_error (repo : InMemAccessRepo) (err : AppError) :
    repo.connectToDatasource (.error err) = (.error err, repo) := rfl

end InMemAccessRepo

/-- In-memory service store. -/
structure InMemServiceRepo where
  services : HashMap UInt64 Service

namespace InMemServiceRepo

/-- Creates a new in-memory service store. -/
def new : InMemServiceRepo := ⟨∅⟩

def put (repo : InMemServiceRepo) (service : Service) : Option Service × InMemServiceRepo :=
  let (previous, services) := keyedPut Service.serviceId repo.services service
  (previous, ⟨services⟩)

def get (repo : InMemServiceRepo) (serviceId : UInt64) : Option Service :=
  repo.services.lookup serviceId

/-- `get_all`: every entry's service. -/
def getAll (repo : InMemServiceRepo) : List Service :=
  repo.services.entries.map (·.2)

def delete (repo : InMemServiceRepo) (serviceId : UInt64) : Option Service × InMemServiceRepo :=
  let (previous, services) := keyedDelete repo.services serviceId
  (previous, ⟨services⟩)

def connectToDatasource (repo : InMemServiceRepo)
    (services : Except AppError (List Service)) : Except AppError Unit × InMemServiceRepo :=
  let (result, services) := keyedConnect Service.serviceId repo.services services
  (result, ⟨services⟩)

/-- A file that does not read or parse leaves the store as it was. -/
@[simp] theorem connectToDatasource_error (repo : InMemServiceRepo) (err : AppError) :
    repo.connectToDatasource (.error err) = (.error err, repo) := rfl

end InMemServiceRepo

/-! ## The finite map the repositories refine -/

/-- A single write on a repository. -/
inductive RepoWrite (K V : Type)
  | put (record : V)
  | delete (key : K)

/-- A call that changes a repository: `put`, `delete`, or `connect_to_datasource`
with the records its file holds. -/
inductive RepoOp (K V : Type)
  | put (record : V)
  | delete (key : K)
  | connect (records : List V)

section Spec

variable {K V : Type} [DecidableEq K] (keyOf : V → K)

/-- The single writes a call makes: a `connect` puts its records in order. -/
def RepoOp.writes : RepoOp K V → List (RepoWrite K V)
  | .put record => [.put record]
  | .delete key => [.delete key]
  | .connect records => records.map .put

/-- Whether a write is to `key`. -/
def RepoWrite.touches (key : K) : RepoWrite K V → Bool
  | .put record => keyOf record = key
  | .delete k => k = key

/-- The record a write leaves under its key. -/
def RepoWrite.record? : RepoWrite K V → Option V
  | .put record => some record
  | .delete _ => none

/-- What a finite map holds under `key` after `ops`, in the spec's words: the record of the last
put of that key, unless a later delete removed it. -/
def lastLive (key : K) (ops : List (RepoOp K V)) : Option V :=
  ((ops.flatMap RepoOp.writes).reverse.find? (RepoWrite.touches keyOf key)).bind RepoWrite.record?

/-- A single write on the keyed store. -/
def keyedWrite (data : HashMap K V) : RepoWrite K V → HashMap K V
  | .put record => (keyedPut keyOf data record).2
  | .delete key => (keyedDelete data key).2

/-- A call on the keyed store, as the repository makes it. -/
def keyedApply (data : HashMap K V) : RepoOp K V → HashMap K V
  | .put record => (keyedPut keyOf data record).2
  | .delete key => (keyedDelete data key).2
  | .connect records => (keyedConnect keyOf data (.ok records)).2

theorem keyedApply_eq_foldl_writes (data : HashMap K V) (op : RepoOp K V) :
    keyedApply keyOf data op = op.writes.foldl (keyedWrite keyOf) data := by
  cases op <;> simp [keyedApply, keyedWrite, RepoOp.writes, keyedConnect, keyedLoad, List.foldl_map]

theorem foldl_keyedApply (data : HashMap K V) (ops : List (RepoOp K V)) :
    ops.foldl (keyedApply keyOf) data = (ops.flatMap RepoOp.writes).foldl (keyedWrite keyOf) data := by
  induction ops generalizing data with
  | nil => rfl
  | cons op rest ih => simp [ih, keyedApply_eq_foldl_writes, List.foldl_append]

theorem lookup_keyedWrite (data : HashMap K V) (w : RepoWrite K V) (key : K) :
    (keyedWrite keyOf data w).lookup key =
      if w.touches keyOf key then w.record? else data.lookup key := by
  cases w with
  | put record =>
      by_cases h : keyOf record = key
      · subst h; simp [keyedWrite, keyedPut, RepoWrite.touches, RepoWrite.record?, AList.lookup_insert]
      · simp [keyedWrite, keyedPut, RepoWrite.touches, h, AList.lookup_insert_ne (Ne.symm h)]
  | delete k =>
      by_cases h : k = key
      · subst h; simp [keyedWrite, keyedDelete, RepoWrite.touches, RepoWrite.record?, AList.lookup_erase]
      · simp [keyedWrite, keyedDelete, RepoWrite.touches, h, AList.lookup_erase_ne (Ne.symm h)]

/-- After a list of writes, a key holds what the last write to it left, or what it held before
when none wrote it. -/
theorem lookup_foldl_keyedWrite (writes : List (RepoWrite K V)) (data : HashMap K V) (key : K) :
    (writes.foldl (keyedWrite keyOf) data).lookup key =
      (writes.reverse.find? (RepoWrite.touches keyOf key)).elim (data.lookup key)
        RepoWrite.record? := by
  induction writes generalizing data with
  | nil => rfl
  | cons w rest ih =>
      rw [List.foldl_cons, ih, lookup_keyedWrite, List.reverse_cons, List.find?_append]
      cases rest.reverse.find? (RepoWrite.touches keyOf key) <;>
        by_cases h : w.touches keyOf key <;> simp [h]

/-- The keyed store refines the finite map of `lastLive`. -/
theorem lookup_foldl_keyedApply (ops : List (RepoOp K V)) (key : K) :
    (ops.foldl (keyedApply keyOf) ∅).lookup key = lastLive keyOf key ops := by
  rw [foldl_keyedApply, lookup_foldl_keyedWrite, lastLive]
  cases (ops.flatMap RepoOp.writes).reverse.find? (RepoWrite.touches keyOf key) <;> rfl

/-- Every record of the store sits under its own key. -/
def KeyedWell (data : HashMap K V) : Prop :=
  ∀ key record, data.lookup key = some record → keyOf record = key

theorem keyedWell_keyedWrite {data : HashMap K V} (hwell : KeyedWell keyOf data)
    (w : RepoWrite K V) : KeyedWell keyOf (keyedWrite keyOf data w) := by
  intro key record hlookup
  rw [lookup_keyedWrite] at hlookup
  split at hlookup
  · cases w <;> simp_all [RepoWrite.touches, RepoWrite.record?]
  · exact hwell key record hlookup

theorem keyedWell_foldl_keyedApply (ops : List (RepoOp K V)) :
    KeyedWell keyOf (ops.foldl (keyedApply keyOf) ∅) := by
  rw [foldl_keyedApply]
  generalize ops.flatMap RepoOp.writes = writes
  suffices ∀ data : HashMap K V, KeyedWell keyOf data →
      KeyedWell keyOf (writes.foldl (keyedWrite keyOf) data) from
    this ∅ fun key record h => by simp at h
  induction writes with
  | nil => exact fun _ h => h
  | cons w rest ih => exact fun data h => ih _ (keyedWell_keyedWrite keyOf h w)

/-- In a list of entries with distinct keys, each under its record's own key, a record occurs
among the values whose keys satisfy `q` once if it is the one stored under its key, else not. -/
theorem count_filter_values [DecidableEq V] (q : K → Prop) [DecidablePred q] (v : V)
    (l : List (Sigma fun _ : K => V)) (hnd : l.NodupKeys) (hkey : ∀ e ∈ l, keyOf e.2 = e.1) :
    ((l.filter fun e => q e.1).map (·.2)).count v =
      if q (keyOf v) ∧ l.dlookup (keyOf v) = some v then 1 else 0 := by
  induction l with
  | nil => simp
  | cons e rest ih =>
      obtain ⟨k, x⟩ := e
      rw [List.nodupKeys_cons] at hnd
      have hx : keyOf x = k := hkey _ (List.mem_cons_self _ _)
      have hrest := ih hnd.2 fun e he => hkey e (List.mem_cons_of_mem _ he)
      by_cases hk : keyOf v = k
      · subst hk
        have hnone : rest.dlookup (keyOf v) = none := List.dlookup_eq_none.2 hnd.1
        simp only [hnone, reduceCtorEq, and_false, if_false] at hrest
        by_cases hq : q (keyOf v) <;>
          simp [List.filter_cons, List.count_cons, List.dlookup_cons_eq, hq, hrest]
      · have hxv : x ≠ v := fun h => hk (h ▸ hx)
        by_cases hq : q k <;>
          simp [List.filter_cons, List.count_cons, List.dlookup_cons_ne rest ⟨k, x⟩ hk, hq, hrest, hxv]

theorem count_keyedValuesWhere [DecidableEq V] (q : K → Prop) [DecidablePred q]
    {data : HashMap K V}
    (hwell : KeyedWell keyOf data) (v : V) :
    (keyedValuesWhere q data).count v =
      if q (keyOf v) ∧ data.lookup (keyOf v) = some v then 1 else 0 :=
  count_filter_values keyOf q v data.entries data.nodupKeys fun e he =>
    hwell e.1 e.2 (AList.mem_lookup_iff.2 he)

/-- Loading a list into an empty store keeps, under each key, the last record with that key. -/
theorem lookup_keyedLoad (records : List V) (key : K) :
    (keyedLoad keyOf ∅ records).lookup key = records.reverse.find? (fun r => keyOf r = key) := by
  have hload : keyedLoad keyOf ∅ records = (records.map .put).foldl (keyedWrite keyOf) ∅ := by
    simp [keyedLoad, keyedWrite, List.foldl_map]
  rw [hload, lookup_foldl_keyedWrite, ← List.map_reverse, List.find?_map]
  change (Option.map _ (records.reverse.find? fun r => keyOf r = key)).elim _ _ = _
  cases records.reverse.find? (fun r => keyOf r = key) <;> rfl

theorem mem_keyedLoad (records : List V) (key : K) :
    key ∈ keyedLoad keyOf ∅ records ↔ key ∈ records.map keyOf := by
  rw [← AList.lookup_isSome, lookup_keyedLoad, List.find?_isSome]
  simp

/-- Loading a list into an empty store keeps one record per distinct key of the list. -/
theorem length_keyedLoad (records : List V) :
    (keyedLoad keyOf ∅ records).entries.length = (records.map keyOf).dedup.length := by
  have hperm : (keyedLoad keyOf ∅ records).keys.Perm (records.map keyOf).dedup :=
    (List.perm_ext_iff_of_nodup (AList.keys_nodup _) (List.nodup_dedup _)).2 fun key => by
      rw [← AList.mem_keys, mem_keyedLoad, List.mem_dedup]
  simpa [AList.keys, List.keys] using hperm.length_eq

theorem length_keyedLoad_eq_iff (records : List V) :
    (keyedLoad keyOf ∅ records).entries.length = records.length ↔ (records.map keyOf).Nodup := by
  rw [length_keyedLoad]
  constructor
  · intro h
    have hsame := (List.dedup_sublist (records.map keyOf)).eq_of_length (by simpa using h)
    exact hsame ▸ List.nodup_dedup _
  · intro h
    rw [h.dedup, List.length_map]

end Spec

/-! ## Both repositories refine a finite map -/

namespace InMemAccessRepo

/-- One call of a sequence on the access repository. -/
def apply (repo : InMemAccessRepo) : RepoOp (UInt64 × UInt64) ServiceAccess → InMemAccessRepo
  | .put access => (repo.put access).2
  | .delete key => (repo.delete key.1 key.2).2
  | .connect accesses => (repo.connectToDatasource (.ok accesses)).2

/-- The repository after a sequence of calls from `new`. -/
def run (ops : List (RepoOp (UInt64 × UInt64) ServiceAccess)) : InMemAccessRepo :=
  ops.foldl apply new

theorem run_accesses (ops : List (RepoOp (UInt64 × UInt64) ServiceAccess)) :
    (run ops).accesses = ops.foldl (keyedApply ServiceAccess.key) ∅ := by
  suffices ∀ repo : InMemAccessRepo, (ops.foldl apply repo).accesses =
      ops.foldl (keyedApply ServiceAccess.key) repo.accesses from this new
  induction ops with
  | nil => exact fun _ => rfl
  | cons op rest ih => intro repo; rw [List.foldl_cons, ih]; cases op <;> rfl

end InMemAccessRepo

namespace InMemServiceRepo

/-- One call of a sequence on the service repository. -/
def apply (repo : InMemServiceRepo) : RepoOp UInt64 Service → InMemServiceRepo
  | .put service => (repo.put service).2
  | .delete serviceId => (repo.delete serviceId).2
  | .connect services => (repo.connectToDatasource (.ok services)).2

/-- The repository after a sequence of calls from `new`. -/
def run (ops : List (RepoOp UInt64 Service)) : InMemServiceRepo :=
  ops.foldl apply new

theorem run_services (ops : List (RepoOp UInt64 Service)) :
    (run ops).services = ops.foldl (keyedApply Service.serviceId) ∅ := by
  suffices ∀ repo : InMemServiceRepo, (ops.foldl apply repo).services =
      ops.foldl (keyedApply Service.serviceId) repo.services from this new
  induction ops with
  | nil => exact fun _ => rfl
  | cons op rest ih => intro repo; rw [List.foldl_cons, ih]; cases op <;> rfl

theorem getAll_eq (repo : InMemServiceRepo) :
    repo.getAll = keyedValuesWhere (fun _ : UInt64 => True) repo.services := by
  simp [getAll, keyedValuesWhere]

end InMemServiceRepo

/-- The access and service repositories refine finite maps keyed by `(user_id, service_id)` and
`service_id`: over every sequence of `put`, `delete` and `connect_to_datasource` calls, `get`,
`put` and `delete` see the record of the last put that no later delete removed,
`get_all_for_user` and `get_all` list each stored record of their selection once, and loading a
list into an empty repository keeps the last record of each distinct key. -/
theorem inMemRepos_refine_finite_map :
    (∀ ops userId serviceId, (InMemAccessRepo.run ops).get userId serviceId =
        lastLive ServiceAccess.key (userId, serviceId) ops) ∧
    (∀ ops access, ((InMemAccessRepo.run ops).put access).1 =
        lastLive ServiceAccess.key access.key ops) ∧
    (∀ ops userId serviceId, ((InMemAccessRepo.run ops).delete userId serviceId).1 =
        lastLive ServiceAccess.key (userId, serviceId) ops) ∧
    (∀ ops userId access, ((InMemAccessRepo.run ops).getAllForUser userId).count access =
        if access.userId = userId ∧ lastLive ServiceAccess.key access.key ops = some access
        then 1 else 0) ∧
    (∀ ops serviceId, (InMemServiceRepo.run ops).get serviceId =
        lastLive Service.serviceId serviceId ops) ∧
    (∀ ops service, ((InMemServiceRepo.run ops).put service).1 =
        lastLive Service.serviceId service.serviceId ops) ∧
    (∀ ops serviceId, ((InMemServiceRepo.run ops).delete serviceId).1 =
        lastLive Service.serviceId serviceId ops) ∧
    (∀ ops service, (InMemServiceRepo.run ops).getAll.count service =
        if lastLive Service.serviceId service.serviceId ops = some service then 1 else 0) ∧
    (∀ accesses : List ServiceAccess,
        let repo := (InMemAccessRepo.new.connectToDatasource (.ok accesses)).2
        (∀ userId serviceId, repo.get userId serviceId =
            accesses.reverse.find? fun access => access.key = (userId, serviceId)) ∧
        repo.accesses.entries.length = (accesses.map ServiceAccess.key).dedup.length ∧
        (repo.accesses.entries.length = accesses.length ↔
          (accesses.map ServiceAccess.key).Nodup)) ∧
    (∀ services : List Service,
        let repo := (InMemServiceRepo.new.connectToDatasource (.ok services)).2
        (∀ serviceId, repo.get serviceId =
            services.reverse.find? fun service => service.serviceId = serviceId) ∧
        repo.services.entries.length = (services.map Service.serviceId).dedup.length ∧
        (repo.services.entries.length = services.length ↔
          (services.map Service.serviceId).Nodup)) := by
  refine ⟨fun ops userId serviceId => ?_, fun ops access => ?_, fun ops userId serviceId => ?_,
    fun ops userId access => ?_, fun ops serviceId => ?_, fun ops service => ?_,
    fun ops serviceId => ?_, fun ops service => ?_, fun accesses => ?_, fun services => ?_⟩
  · rw [InMemAccessRepo.get, InMemAccessRepo.run_accesses, lookup_foldl_keyedApply]
  · rw [InMemAccessRepo.put, keyedPut, InMemAccessRepo.run_accesses, lookup_foldl_keyedApply]
  · rw [InMemAccessRepo.delete, keyedDelete, InMemAccessRepo.run_accesses,
      lookup_foldl_keyedApply]
  · rw [InMemAccessRepo.getAllForUser, InMemAccessRepo.run_accesses,
      count_keyedValuesWhere _ _ (keyedWell_foldl_keyedApply _ ops), lookup_foldl_keyedApply]
    rfl
  · rw [InMemServiceRepo.get, InMemServiceRepo.run_services, lookup_foldl_keyedApply]
  · rw [InMemServiceRepo.put, keyedPut, InMemServiceRepo.run_services, lookup_foldl_keyedApply]
  · rw [InMemServiceRepo.delete, keyedDelete, InMemServiceRepo.run_services,
      lookup_foldl_keyedApply]
  · rw [InMemServiceRepo.getAll_eq, InMemServiceRepo.run_services,
      count_keyedValuesWhere _ _ (keyedWell_foldl_keyedApply _ ops), lookup_foldl_keyedApply]
    simp
  · exact ⟨fun userId serviceId => lookup_keyedLoad _ accesses _, length_keyedLoad _ accesses,
      length_keyedLoad_eq_iff _ accesses⟩
  · exact ⟨fun serviceId => lookup_keyedLoad _ services _, length_keyedLoad _ services,
      length_keyedLoad_eq_iff _ services⟩

end Trust0
