import LibStorageMgmt.Lsm.Locate

/-!
# Local argument checks before dispatch

`_check_search_key` rejects a key only when the key is *truthy* and not
supported, and the six listing stubs call it before their one request: a key
that passes sends exactly that request (`listing_supported`). A falsy key
other than `None`, such as the empty string, passes the check and is sent to
the plugin (`listing_empty_key_sent`).
-/

namespace LibStorageMgmt.Lsm

open Py

variable (env : Env)

/-- A stub writes exactly its one request, whatever the reply. -/
theorem call_state (c : Client) (method : String) (args : List (String × PyVal)) (n : Net) :
    PyM.stateAfter (c.call env method args n) =
      { n with sent := n.sent ++ [(c.tp.fd, ⟨method, args⟩)] } := by
  have hrpc : PyM.stateAfter (c.tp.rpc env ⟨method, args⟩ n) =
      { n with sent := n.sent ++ [(c.tp.fd, ⟨method, args⟩)] } := by
    rw [rpc_apply]
    split <;> rfl
  unfold Client.call
  cases returnRequiresOf method with
  | some shape => rw [returnRequires_state, hrpc]
  | none => exact hrpc

variable (method : String) (keys : List String) (c : Client) (searchKey searchValue flags : PyVal)

/-- A key that passes the check — a supported key, or a falsy one — sends
exactly one request, named after the stub, with `search_key`,
`search_value` and `flags`. -/
theorem listing_supported
    (hpass : (searchKey.truthy && !keys.any fun k => searchKey.eqStr k) = false) (n : Net) :
    PyM.stateAfter (Client.listing env method keys c searchKey searchValue flags n) =
      { n with sent := n.sent ++ [(c.tp.fd, ⟨method,
        [("search_key", searchKey), ("search_value", searchValue), ("flags", flags)]⟩)] } := by
  simp only [Client.listing, checkSearchKey, hpass]
  exact call_state env c method _ n

/-- The empty search key is never rejected: whatever the supported keys, the
listing stubs send it to the plugin. -/
theorem listing_empty_key_sent (n : Net) :
    PyM.stateAfter (Client.listing env method keys c (.str "") searchValue flags n) =
      { n with sent := n.sent ++ [(c.tp.fd, ⟨method,
        [("search_key", .str ""), ("search_value", searchValue), ("flags", flags)]⟩)] } :=
  listing_supported env method keys c (.str "") searchValue flags rfl n

end LibStorageMgmt.Lsm
