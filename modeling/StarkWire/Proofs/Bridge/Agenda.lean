/-
# What a program asks for, whatever it is answered

The requests of a program are made with the replies to those before them, but which operations they
belong to is fixed beforehand (`Program.Follows`), for every operation of the bridge by its kind and
the number of its arguments (`Operation.agenda`).  A run asks for as much of that as it gets to
(`Operation.calls_isPrefix`), and for all of it if it has an answer (`Program.Follows.calls_of_ok`).
-/

import StarkWire.Proofs.Bridge.Exchange
import StarkWire.Proofs.Bridge.Operation

namespace StarkWire
namespace Bridge

variable {σ α β : Type} {P : Primitives σ} {s : σ}

namespace Program

/-- The program asks for these operations, in order, whatever it is answered. -/
def Follows : Program α → List String → Prop
  | done _, operations => operations = []
  | ask q next, operations =>
    ∃ rest, operations = q.operation :: rest ∧ ∀ a, (next a).Follows rest

/-- A request follows the list of its operation alone. -/
theorem follows_request (q : Request) : (request q).Follows [q.operation] :=
  ⟨[], rfl, fun _ => rfl⟩

/-- A program followed by another follows both lists, one after the other. -/
theorem Follows.bind {p : Program α} {f : α → Program β} {first second : List String}
    (hp : p.Follows first) (hf : ∀ a, (f a).Follows second) :
    (p.bind f).Follows (first ++ second) := by
  induction p generalizing first with
  | done a =>
    obtain rfl : first = [] := hp
    exact hf a
  | ask q next ih =>
    obtain ⟨rest, rfl, hrest⟩ := hp
    exact ⟨rest ++ second, rfl, fun a => ih a (hrest a)⟩

/-- What is made of the result is no request. -/
theorem Follows.map {p : Program α} {operations : List String} (hp : p.Follows operations)
    (f : α → β) : (p.map f).Follows operations := by
  have h : (p.bind fun a => done (f a)).Follows (operations ++ []) := hp.bind fun _ => rfl
  rwa [List.append_nil] at h

/-- The calls of a run are as much of what the program follows as it gets to. -/
theorem Follows.calls_isPrefix {p : Program α} {operations : List String}
    (hp : p.Follows operations) : (p.run P s).calls.map Request.operation <+: operations := by
  induction p generalizing operations s with
  | done a => exact List.nil_prefix
  | ask q next ih =>
    obtain ⟨rest, rfl, hrest⟩ := hp
    rw [run]
    rcases P.reply q s with ⟨a | f | _, s'⟩
    · exact List.cons_prefix_cons.2 ⟨rfl, ih a (hrest a)⟩
    · exact List.cons_prefix_cons.2 ⟨rfl, List.nil_prefix⟩
    · exact List.cons_prefix_cons.2 ⟨rfl, List.nil_prefix⟩

/-- A run to the end has asked for all of it. -/
theorem Follows.calls_of_ok {p : Program α} {operations : List String}
    (hp : p.Follows operations) {a : α} (h : (p.run P s).answer = .ok a) :
    (p.run P s).calls.map Request.operation = operations := by
  induction p generalizing operations s with
  | done a => exact hp.symm
  | ask q next ih =>
    obtain ⟨rest, rfl, hrest⟩ := hp
    rcases hr : P.reply q s with ⟨a | f | _, s'⟩
    · rw [run_ask_of_value hr] at h ⊢
      exact congrArg (q.operation :: ·) (ih a (hrest a) h)
    · rw [run, hr] at h
      cases h
    · rw [run, hr] at h
      cases h

/-- If no call fails, there is an answer, and all has been asked for. -/
theorem Follows.calls_of_succeeded {p : Program α} {operations : List String}
    (hp : p.Follows operations)
    (h : ∀ x ∈ P.exchanges (p.run P s).calls s, x.succeeded = true) :
    (∃ a, (p.run P s).answer = .ok a) ∧ (p.run P s).calls.map Request.operation = operations := by
  obtain ⟨a, ha⟩ := (p.ending s).exists_ok_iff.2 h
  exact ⟨⟨a, ha⟩, hp.calls_of_ok ha⟩

end Program

/-- A chain asks for one hash for each element. -/
theorem follows_chain (acc : Fp) (elements : List Fp) :
    (chain acc elements).Follows (List.replicate elements.length "pedersen") := by
  induction elements generalizing acc with
  | nil => rfl
  | cons a rest ih => exact ⟨_, rfl, ih⟩

/-- A closed chain asks for one more. -/
theorem follows_terminatedChain (elements : List Fp) :
    (terminatedChain elements).Follows (List.replicate (elements.length + 1) "pedersen") := by
  rw [List.replicate_succ']
  exact (follows_chain 0 elements).bind fun _ => Program.follows_request _

/-- A sponge asks for one permutation for each pair, and one for the padding. -/
theorem follows_sponge (t : Poseidon.State) (elements : List Fp) :
    (sponge t elements).Follows (List.replicate (elements.length / 2 + 1) "hades") := by
  fun_induction sponge t elements with
  | case1 t a b rest ih =>
    have hlen : (a :: b :: rest).length / 2 + 1 = rest.length / 2 + 1 + 1 := by
      simp only [List.length_cons]
      omega
    rw [hlen]
    exact ⟨_, rfl, ih⟩
  | case2 t a =>
    rw [List.length_singleton]
    exact Program.follows_request (.permute (absorb t a 1))
  | case3 t => exact Program.follows_request (.permute (absorb t 1 0))

/-- Reading a list gives as many elements as there are buffers. -/
theorem always_length_readElements (buffers : List Buffer) :
    Always (fun elements => elements.length = buffers.length) (readElements buffers) := by
  induction buffers with
  | nil => exact always_ok rfl
  | cons buffer rest ih =>
    refine always_bind fun a => ?_
    exact always_map fun as h => congrArg (· + 1) (ih as h)

namespace Operation

/-- What an operation asks for, in order, if it gets that far. -/
def agenda : Operation → List String
  | pedersen .. => ["pedersen"]
  | sign .. => ["sign"]
  | signDeterministic .. => ["generate_k", "sign"]
  | verify .. => ["verify"]
  | verifySignature .. => ["verify"]
  | publicKey _ => ["get_public_key"]
  | hades _ => ["hades"]
  | hadesState _ => ["hades"]
  | pedersenOnElements elements => List.replicate (elements.length + 1) "pedersen"
  | poseidonHash .. => ["hades"]
  | poseidonHashSingle _ => ["hades"]
  | poseidonHashMany elements => List.replicate (elements.length / 2 + 1) "hades"

/-- **Every operation follows its agenda.** -/
theorem follows_procedure (op : Operation) :
    Always (fun p => p.Follows op.agenda) op.procedure := by
  cases op with
  | pedersen a b =>
    exact always_map (always_bind fun a => always_bind fun b => always_ok
      (((Program.follows_request _).map _).map _))
  | sign d m k =>
    exact always_map (always_bind fun d => always_bind fun m => always_bind fun k => always_ok
      (((Program.follows_request _).map _).map _))
  | signDeterministic d m seed =>
    -- the same two requests with a seed and without one
    have h : ∀ d m seed, (((Program.request (.nonce m d seed)).bind fun k =>
        (Program.request (.sign d m k)).map wireSignature).map ofBytes).Follows
          ["generate_k", "sign"] := fun d m seed =>
      ((Program.follows_request (.nonce m d seed)).bind fun k =>
        (Program.follows_request (.sign d m k)).map _).map _
    cases seed with
    | none => exact always_map (always_bind fun d => always_bind fun m => always_ok (h d m none))
    | some seed =>
      exact always_map (always_bind fun d => always_bind fun m => always_bind fun seed =>
        always_ok (h d m seed))
  | verify q h r w =>
    exact always_map (always_bind fun q => always_bind fun h => always_bind fun r =>
      always_bind fun w => always_ok ((Program.follows_request _).map _))
  | verifySignature q h signature =>
    rw [procedure]
    rcases Signature.read signature with e | sig
    · rintro p hp
      cases hp
    · exact always_map (always_bind fun q => always_bind fun h => always_bind fun r =>
        always_bind fun w => always_ok ((Program.follows_request _).map _))
  | publicKey d =>
    exact always_map (always_bind fun d => always_ok (((Program.follows_request _).map _).map _))
  | hades grid =>
    rw [procedure, Procedure.hades]
    rcases Poseidon.WireState.ofGrid grid with e | state
    · rintro p hp
      cases hp
    · exact always_ok ((((Program.follows_request _).map _).map _).map _)
  | hadesState state => exact always_ok (((Program.follows_request _).map _).map _)
  | pedersenOnElements elements =>
    refine always_map ((always_length_readElements elements).bind fun as h => always_ok ?_)
    rw [agenda, ← h]
    exact ((follows_terminatedChain as).map _).map _
  | poseidonHash a b =>
    exact always_map (always_bind fun a => always_bind fun b => always_ok
      (((Program.follows_request _).map _).map _))
  | poseidonHashSingle a =>
    exact always_map (always_bind fun a => always_ok (((Program.follows_request _).map _).map _))
  | poseidonHashMany elements =>
    refine always_map ((always_length_readElements elements).bind fun as h => always_ok ?_)
    rw [agenda, ← h]
    exact ((follows_sponge _ as).map _).map _

/-- The calls of an operation are as much of its agenda as it gets to. -/
theorem calls_isPrefix (P : Primitives σ) (op : Operation) (s : σ) :
    (op.run P s).calls.map Request.operation <+: op.agenda := by
  have hfollows := op.follows_procedure
  rw [run_eq_finish, calls_finish]
  rcases hc : op.procedure with e | p
  · exact List.nil_prefix
  · exact (hfollows p hc).calls_isPrefix

end Operation

end Bridge
end StarkWire
