import PolymorphWebsocket.Host.Payload
import PolymorphWebsocket.Js.Collecting
import PolymorphWebsocket.Provider.Payload

/-!
# The three payload collectors

However each of them gets the payload cut, the three collectors store the same bytes and never more
than the declared length.  They count the same bytes past it as long as the count is a 32-bit number:
that of the guest provider wraps around, and a payload that is too long by a multiple of `2 ^ 32` bytes
passes for one of the declared length.
-/

namespace Polymorph

/-- What the collectors should do with a payload: return its bytes within the declared length and the
number of those past it, accept it when it has the declared length, and at no point store more. -/
structure CollectorsAgree (declared : Nat) (payload : Bytes)
    (reads : List (Provider.StreamResult × Bytes)) (chunks : List Bytes)
    (source : Js.ByteSource) : Prop where
  provider : Provider.collectPayload declared .empty reads = some (collected declared payload)
  host : (Host.ByteCollector.collect declared chunks).map (fun c => (c.data, c.excess)) =
    some (collected declared payload)
  js : Js.collectBytes source declared = some (collected declared payload)
  acceptsProvider : (Provider.collectPayload declared .empty reads).map (accepts declared) =
    some (decide (payload.length = declared))
  acceptsHost : (Host.ByteCollector.collect declared chunks).map
      (fun c => accepts declared (c.data, c.excess)) = some (decide (payload.length = declared))
  acceptsJs : (Js.collectBytes source declared).map (accepts declared) =
    some (decide (payload.length = declared))
  storedProvider : ∀ n, ((payload.take n).foldl (Provider.Collecting.push declared)
    .empty).collected.length ≤ declared
  storedHost : ∀ n, ((chunks.take n).foldl (fun c chunk => c.pollConsume chunk false)
    (Host.ByteCollector.new declared)).buf.length ≤ declared
  storedJs : ∀ values, source.values = some values → ∀ n,
    ((values.take n).foldl (Js.ChunkList.push declared) .empty).chunks.flatten.length ≤ declared

/-- The collectors agree, over every cut of the payload, exactly when fewer than `2 ^ 32` bytes are
past the declared length. -/
theorem collectors_agree_iff (declared : Nat) {payload : Bytes}
    {reads : List (Provider.StreamResult × Bytes)} (hreads : Provider.Reads reads payload)
    {chunks : List Bytes} (hchunks : chunks.flatten = payload) {source : Js.ByteSource}
    (hsource : source.Carries payload) :
    CollectorsAgree declared payload reads chunks source ↔ payload.length - declared < 2 ^ 32 := by
  have hprovider : Provider.collectPayload declared .empty reads =
      some (payload.take declared, (payload.length - declared) % Provider.usizeRange) :=
    Provider.collectPayload_eq hreads
  have hjs : Js.collectBytes source declared = some (collected declared payload) :=
    Js.collectBytes_eq hsource declared
  constructor
  · intro h
    have hexcess : (payload.length - declared) % Provider.usizeRange = payload.length - declared :=
      congrArg Prod.snd (Option.some.inj (hprovider.symm.trans h.provider))
    rw [← hexcess]
    exact Nat.mod_lt _ (by decide)
  · intro hlt
    have hguest : (payload.length - declared) % Provider.usizeRange = payload.length - declared :=
      Nat.mod_eq_of_lt hlt
    have hword : (payload.length - declared) % 2 ^ 64 = payload.length - declared :=
      Nat.mod_eq_of_lt (Nat.lt_trans hlt (by decide))
    have hprovider' :
        Provider.collectPayload declared .empty reads = some (collected declared payload) := by
      rw [hprovider, hguest]
      rfl
    have hhost : Host.ByteCollector.collect declared chunks =
        some { data := (collected declared payload).1, excess := (collected declared payload).2 } := by
      rw [Host.ByteCollector.collect_eq, hchunks, hword]
      rfl
    refine ⟨hprovider', ?_, hjs, ?_, ?_, ?_, fun n => ?_, fun n => ?_, fun values _ n => ?_⟩
    · rw [hhost]
      rfl
    · rw [hprovider', Option.map_some, accepts_collected]
    · rw [hhost, Option.map_some, accepts_collected]
    · rw [hjs, Option.map_some, accepts_collected]
    · exact Provider.collecting_length_le declared (payload.take n)
    · exact Host.ByteCollector.buf_length_le declared (chunks.take n)
    · exact Js.chunks_length_le declared (values.take n)

/-- Three bytes against a declared length of two, cut in three ways. -/
theorem collectors_agree_three :
    CollectorsAgree 2 [1, 2, 3] [(.complete, [1]), (.dropped, [2, 3])] [[1, 2], [3]]
      (.handle [[1, 2, 3], []]) :=
  (collectors_agree_iff 2 (.more [1] (.last rfl [2, 3])) rfl ⟨[.chunk [1, 2, 3]], rfl, rfl⟩).mpr
    (by decide)

/-- The guest provider takes a payload of `2 ^ 32` bytes for an empty one. -/
theorem wrapped_payload_accepted :
    ¬ ∀ (declared : Nat) (payload : Bytes) (reads : List (Provider.StreamResult × Bytes)),
      Provider.Reads reads payload →
        Provider.collectPayload declared .empty reads = some (collected declared payload) := by
  intro h
  obtain ⟨payload, hlength⟩ : ∃ payload : Bytes, payload.length = 2 ^ 32 :=
    ⟨List.replicate (2 ^ 32) 0, List.length_replicate⟩
  have hreads : Provider.Reads [(.dropped, payload)] payload := .last rfl payload
  have hcollect : Provider.collectPayload 0 .empty [(.dropped, payload)] =
      some (payload.take 0, (payload.length - 0) % Provider.usizeRange) :=
    Provider.collectPayload_eq hreads
  have hexcess : (payload.length - 0) % Provider.usizeRange = payload.length - 0 :=
    congrArg Prod.snd (Option.some.inj (hcollect.symm.trans (h 0 payload _ hreads)))
  rw [hlength] at hexcess
  exact absurd hexcess (by decide)

end Polymorph
