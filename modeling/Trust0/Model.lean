import Mathlib.Data.List.AList
/-
The records the gateway and client managers pass around (`Service`, `ServiceAccess`), the
error type they return, and the `HashMap` that holds them.

`Service`, `ServiceAccess` and `AppError` are declared in crates outside the sources; they
are written here from the spec's data model and from the variants the modelled code builds.
-/

namespace Trust0

/-- A Rust `HashMap<K, V>`: a finite map with one entry per key, iterated in an order the
program does not choose. -/
abbrev HashMap (K V : Type) := AList fun _ : K => V

/-- A map with no key is the empty map. -/
theorem HashMap.eq_empty_of_forall_not_mem {K V : Type} {s : HashMap K V} (h : ∀ k, k ∉ s) :
    s = ∅ :=
  AList.ext (List.eq_nil_iff_forall_not_mem.2 fun entry hentry =>
    h entry.1 (AList.mem_keys.2 (List.mem_keys_of_mem hentry)))

theorem HashMap.lookup_insert_eq_some {K V : Type} [DecidableEq K] {s : HashMap K V}
    {k k' : K} {v v' : V} :
    (s.insert k v).lookup k' = some v' ↔ (k' = k ∧ v = v') ∨ (k' ≠ k ∧ s.lookup k' = some v') := by
  by_cases hk : k' = k
  · subst hk; simp [AList.lookup_insert]
  · simp [AList.lookup_insert_ne hk, hk]

/-- `u64::MAX`, the sentinel both managers use for a proxy key with no service. -/
def u64Max : UInt64 := 18446744073709551615

/-- Modelled from the spec: the error type of `trust0_common::error`, with the variants the
modelled code builds; the boxed cause of `GenWithMsgAndErr` is left out. -/
inductive AppError
  | general (msg : String)
  | genWithMsgAndErr (msg : String)
  | wouldBlock
  deriving DecidableEq, Repr

/-- Modelled from the spec: a service's transport. -/
inductive Transport
  | tcp
  | udp
  deriving DecidableEq, Repr

/-- Modelled from the spec: a service record, keyed by `serviceId`. -/
structure Service where
  serviceId : UInt64
  name : String
  transport : Transport
  host : String
  port : UInt16
  deriving DecidableEq, Repr

/-- Modelled from the spec: one grant of a service to a user, keyed by both ids. -/
structure ServiceAccess where
  userId : UInt64
  serviceId : UInt64
  deriving DecidableEq, Repr

/-- Modelled from the spec: an event on the proxy events channel. `Closed` carries the key of the
proxy connection that closed; the payload of `Message` is left out, as no modelled function
reads it. -/
inductive ProxyEvent
  | closed (proxyKey : String)
  | message
  deriving DecidableEq, Repr

end Trust0
