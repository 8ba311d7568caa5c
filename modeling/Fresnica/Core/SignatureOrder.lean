import Fresnica.Core.Authorization
import Mathlib.Data.List.Perm.Basic

/-!
# The order of the signatures of an entry

The network reads the signatures of an account as a vector with strictly increasing
public keys. A call of the core appends, and refuses a signature only if the very same
value is there. So an entry that several signers sign is in that form when each new
signature is of a greater key than those before it, and in no other case: not when the
signers come in another order, and not when one signer answers twice and differently.

Signers that answer alike each time should leave one entry, whatever the order in which
they sign. They do when there is one signature to add. With two, the signer that comes
first is listed first.

## Main definitions

* `Holds`, `CanonicalSignatures` — the signatures of an entry, in the order of their keys
* `NewSignature` — what a signer has to answer for a call to succeed
* `SignsInOrder`, `OrderedStep` — a call whose signature is of a greater key
* `Brings`, `OneSignature` — what a call adds to an unsigned entry, and calls that add the same
* `EndsCanonically` — the form, each key once, and one entry for every order of signers

## Main results

* `signSorobanAuthorizationEntry_eq_ok` — when a call succeeds, and what it leaves
* `canonical_of_ordered`, `ordered_of_canonical` — the form, over a run
* `final_of_oneSignature` — what deterministic signers of one signature leave
* `signing_endsCanonically_iff` — when a run of calls ends in canonical form
-/

namespace Fresnica

open Foundation

section Definitions

variable {Bytes Digest EntryBytes PreimageBytes : Type}
variable (p : Primitives Bytes Digest) (xdr : AuthorizationXdr EntryBytes PreimageBytes)

def signatureValues (signatures : List (Uint256 × Vector UInt8 64)) : List ScVal :=
  signatures.map fun s => signatureMap s.1 s.2

/-- The entry holds these signatures, each with its key. -/
def Holds (entry : SorobanAuthorizationEntry)
    (signatures : List (Uint256 × Vector UInt8 64)) : Prop :=
  ∃ credentials, entry.credentials.direct = .ok credentials ∧
    existingSignatures credentials.signature = .ok (signatureValues signatures)

/-- The keys of the signatures increase strictly, as byte strings. -/
def CanonicalSignatures (entry : SorobanAuthorizationEntry) : Prop :=
  ∃ signatures, Holds entry signatures ∧
    signatures.Pairwise fun s t => s.1.toList < t.1.toList

/-- An entry of a classic account that signs for itself, and has not. -/
def UnsignedDirect (entry : SorobanAuthorizationEntry) : Prop :=
  ∃ credentials id, entry.credentials.direct = .ok credentials ∧
    credentials.address = .account id ∧ credentials.signature = .void

/-- The signer answers with a valid signature of its key that the entry does not hold. -/
structure NewSignature (entry : SorobanAuthorizationEntry) (networkPassphrase : String)
    (signer : SorobanAuthorizationSigner EntryBytes PreimageBytes) (existing : List ScVal)
    (key : Uint256) (signature : Vector UInt8 64) : Prop where
  account : ensureDirectAccountCredential entry = .ok ()
  held : ∃ credentials, entry.credentials.direct = .ok credentials ∧
    existingSignatures credentials.signature = .ok existing
  answer : ∃ request, prepareSorobanAuthorizationSigning p xdr entry networkPassphrase =
      .ok request ∧ signer.signSorobanAuthorization request = .ok signature ∧
    verifyAuthorizationSignature p signer.publicKey request.authorizationHash signature = .ok ()
  publicKey : p.strKey.publicKeyOf? signer.publicKey = some key
  fresh : signatureMap key signature ∉ existing
  room : existing.length + 1 ≤ maxScVecLength

/-- A new signature would be of a greater key than those the entry holds. -/
def SignsInOrder (entry : SorobanAuthorizationEntry)
    (call : String × SorobanAuthorizationSigner EntryBytes PreimageBytes) : Prop :=
  ∀ existing key signature, NewSignature p xdr entry call.1 call.2 existing key signature →
    ∀ other signature', signatureMap other signature' ∈ existing → other.toList < key.toList

def OrderedStep (entry : SorobanAuthorizationEntry)
    (call : String × SorobanAuthorizationSigner EntryBytes PreimageBytes)
    (entry' : SorobanAuthorizationEntry) : Prop :=
  SigningStep p xdr entry call entry' ∧ SignsInOrder p xdr entry call

/-- The answer depends on the hash to sign alone. -/
def SorobanAuthorizationSigner.Deterministic
    (signer : SorobanAuthorizationSigner EntryBytes PreimageBytes) : Prop :=
  ∀ request request', request.authorizationHash = request'.authorizationHash →
    signer.signSorobanAuthorization request = signer.signSorobanAuthorization request'

/-- The call adds this signature to the entry, which holds none. -/
def Brings (entry : SorobanAuthorizationEntry)
    (call : String × SorobanAuthorizationSigner EntryBytes PreimageBytes)
    (s : Uint256 × Vector UInt8 64) : Prop :=
  NewSignature p xdr entry call.1 call.2 [] s.1 s.2

/-- The calls that would sign the entry would all give it the same signature. -/
def OneSignature (entry : SorobanAuthorizationEntry)
    (calls : List (String × SorobanAuthorizationSigner EntryBytes PreimageBytes)) : Prop :=
  ∀ call ∈ calls, ∀ other ∈ calls, ∀ s t,
    Brings p xdr entry call s → Brings p xdr entry other t → s = t

/-- The final entry is in canonical form, holds one signature of each key, and is what
deterministic signers leave in every order of the calls. -/
structure EndsCanonically (entry : SorobanAuthorizationEntry)
    (calls : List (String × SorobanAuthorizationSigner EntryBytes PreimageBytes))
    (final : SorobanAuthorizationEntry) : Prop where
  canonical : CanonicalSignatures final
  once : ∀ signatures, Holds final signatures → (signatures.map Prod.fst).Nodup
  sameEntry : ∀ calls' final', calls.Perm calls' → (∀ call ∈ calls, call.2.Deterministic) →
    Run (SigningStep p xdr) entry calls' final' → final' = final

end Definitions

variable {Bytes Digest EntryBytes PreimageBytes : Type}
variable {p : Primitives Bytes Digest} {xdr : AuthorizationXdr EntryBytes PreimageBytes}
variable {entry entry' final final' : SorobanAuthorizationEntry} {networkPassphrase : String}
variable {signer : SorobanAuthorizationSigner EntryBytes PreimageBytes}
variable {call : String × SorobanAuthorizationSigner EntryBytes PreimageBytes}
variable {calls calls' : List (String × SorobanAuthorizationSigner EntryBytes PreimageBytes)}
variable {signatures signatures' : List (Uint256 × Vector UInt8 64)}
variable {credentials : SorobanAddressCredentials} {key : Uint256} {signature : Vector UInt8 64}

/-! ### The signatures an entry holds -/

theorem signatureMap_inj {key' : Uint256} {signature' : Vector UInt8 64} :
    signatureMap key signature = signatureMap key' signature' ↔
      key = key' ∧ signature = signature' := by
  simp [signatureMap, Vector.toList_inj]

theorem signatureValues_injective : Function.Injective signatureValues := by
  apply List.map_injective_iff.mpr
  intro s t h
  obtain ⟨hkey, hsignature⟩ := signatureMap_inj.mp h
  exact Prod.ext hkey hsignature

theorem mem_signatureValues :
    signatureMap key signature ∈ signatureValues signatures ↔ (key, signature) ∈ signatures := by
  rw [signatureValues, List.mem_map]
  constructor
  · intro h
    obtain ⟨s, hs, heq⟩ := h
    obtain ⟨rfl, rfl⟩ := signatureMap_inj.mp heq
    exact hs
  · intro h
    exact ⟨(key, signature), h, rfl⟩

theorem Holds.unique (h : Holds entry signatures) (h' : Holds entry signatures') :
    signatures = signatures' := by
  obtain ⟨credentials, hdirect, hvalues⟩ := h
  obtain ⟨credentials', hdirect', hvalues'⟩ := h'
  obtain rfl := Except.ok.inj (hdirect.symm.trans hdirect')
  exact signatureValues_injective (Except.ok.inj (hvalues.symm.trans hvalues'))

theorem UnsignedDirect.holds (h : UnsignedDirect entry) : Holds entry [] := by
  obtain ⟨credentials, -, hdirect, -, hvoid⟩ := h
  exact ⟨credentials, hdirect, by rw [hvoid]; rfl⟩

theorem UnsignedDirect.holds_values (h : UnsignedDirect entry)
    (signatures : List (Uint256 × Vector UInt8 64)) :
    Holds (entry.withSignature (.vec (some (signatureValues signatures)))) signatures := by
  obtain ⟨credentials, -, hdirect, -, -⟩ := h
  exact ⟨_, direct_withSignature hdirect, rfl⟩

theorem UnsignedDirect.canonical (h : UnsignedDirect entry) : CanonicalSignatures entry :=
  ⟨[], h.holds, List.Pairwise.nil⟩

/-- The keys of a canonical entry are distinct. -/
theorem CanonicalSignatures.nodup (h : CanonicalSignatures entry) (hheld : Holds entry signatures) :
    (signatures.map Prod.fst).Nodup := by
  obtain ⟨listed, hlisted, horder⟩ := h
  obtain rfl := hlisted.unique hheld
  rw [List.Nodup, List.pairwise_map]
  refine horder.imp ?_
  intro s t hlt heq
  rw [heq] at hlt
  exact List.lt_irrefl _ hlt

/-! ### One call -/

/-- A call succeeds with a new signature, and appends it. -/
theorem signSorobanAuthorizationEntry_eq_ok :
    signSorobanAuthorizationEntry p xdr networkPassphrase signer entry = (.ok (), entry') ↔
      ∃ existing key signature,
        NewSignature p xdr entry networkPassphrase signer existing key signature ∧
        entry' = entry.withSignature (.vec (some (existing ++ [signatureMap key signature]))) := by
  simp only [signSorobanAuthorizationEntry, Mut.bind_eq_ok, Mut.current_eq_ok, Mut.attempt_eq_ok,
    appendSignature_eq_ok, mapErr_eq_ok, ed25519SignatureValue, bind_eq_ok, okOr_eq_ok, pure_eq_ok,
    Except.ok.injEq]
  constructor
  · intro h
    obtain ⟨_, _, ⟨rfl, rfl⟩, _, _, ⟨haccount, rfl⟩, request, _, ⟨hrequest, rfl⟩, signature, _,
      ⟨hsignature, rfl⟩, _, _, ⟨hverify, rfl⟩, _, _, ⟨⟨key, hkey, rfl⟩, rfl⟩, credentials,
      existing, hdirect, hexisting, hfresh, hroom, rfl⟩ := h
    exact ⟨existing, key, signature, ⟨haccount, ⟨credentials, hdirect, hexisting⟩,
      ⟨request, hrequest, hsignature, hverify⟩, hkey, hfresh, hroom⟩, rfl⟩
  · intro h
    obtain ⟨existing, key, signature, hnew, rfl⟩ := h
    obtain ⟨credentials, hdirect, hexisting⟩ := hnew.held
    obtain ⟨request, hrequest, hsignature, hverify⟩ := hnew.answer
    exact ⟨entry, entry, ⟨rfl, rfl⟩, (), entry, ⟨hnew.account, rfl⟩, request, entry,
      ⟨hrequest, rfl⟩, signature, entry, ⟨hsignature, rfl⟩, (), entry, ⟨hverify, rfl⟩, _, entry,
      ⟨⟨key, hnew.publicKey, rfl⟩, rfl⟩, credentials, existing, hdirect, hexisting, hnew.fresh,
      hnew.room, rfl⟩

theorem NewSignature.existing_eq {existing : List ScVal}
    (h : NewSignature p xdr entry networkPassphrase signer existing key signature)
    (hheld : Holds entry signatures) : existing = signatureValues signatures := by
  obtain ⟨credentials, hdirect, hexisting⟩ := h.held
  obtain ⟨credentials', hdirect', hvalues⟩ := hheld
  obtain rfl := Except.ok.inj (hdirect.symm.trans hdirect')
  exact Except.ok.inj (hexisting.symm.trans hvalues)

theorem Holds.append (h : Holds entry signatures) :
    Holds (entry.withSignature
        (.vec (some (signatureValues signatures ++ [signatureMap key signature]))))
      (signatures ++ [(key, signature)]) := by
  obtain ⟨credentials, hdirect, -⟩ := h
  refine ⟨_, direct_withSignature hdirect, ?_⟩
  simp [existingSignatures, signatureValues]

/-- A call leaves the entry as it was, or appends a new signature. -/
theorem SigningStep.appends (hheld : Holds entry signatures)
    (h : SigningStep p xdr entry call entry') :
    entry' = entry ∨ ∃ key signature,
      NewSignature p xdr entry call.1 call.2 (signatureValues signatures) key signature ∧
        Holds entry' (signatures ++ [(key, signature)]) := by
  obtain ⟨result, h⟩ := h
  cases result with
  | error e => exact Or.inl (signSorobanAuthorizationEntry_atomic _ _ _ h)
  | ok _ =>
    obtain ⟨existing, key, signature, hnew, rfl⟩ := signSorobanAuthorizationEntry_eq_ok.mp h
    obtain rfl := hnew.existing_eq hheld
    exact Or.inr ⟨key, signature, hnew, hheld.append⟩

theorem SigningStep.holds (hheld : ∃ signatures, Holds entry signatures)
    (h : SigningStep p xdr entry call entry') : ∃ signatures, Holds entry' signatures := by
  obtain ⟨signatures, hheld⟩ := hheld
  rcases h.appends hheld with rfl | ⟨key, signature, -, hheld'⟩
  · exact ⟨signatures, hheld⟩
  · exact ⟨_, hheld'⟩

/-- A call in order keeps the form. -/
theorem OrderedStep.canonical (hcanonical : CanonicalSignatures entry)
    (h : OrderedStep p xdr entry call entry') : CanonicalSignatures entry' := by
  obtain ⟨signatures, hheld, horder⟩ := hcanonical
  obtain ⟨hstep, hinOrder⟩ := h
  rcases hstep.appends hheld with rfl | ⟨key, signature, hnew, hheld'⟩
  · exact ⟨signatures, hheld, horder⟩
  · refine ⟨_, hheld', List.pairwise_append.mpr ⟨horder, List.pairwise_singleton _ _, ?_⟩⟩
    intro s hs t ht
    rw [List.mem_singleton.mp ht]
    exact hinOrder _ _ _ hnew s.1 s.2 (mem_signatureValues.mpr hs)

/-- A call that leaves the form was made in the form, and in order. -/
theorem SigningStep.ordered_of_canonical (hheld : Holds entry signatures)
    (h : SigningStep p xdr entry call entry') (hcanonical : CanonicalSignatures entry') :
    CanonicalSignatures entry ∧ SignsInOrder p xdr entry call := by
  constructor
  · rcases h.appends hheld with rfl | ⟨key, signature, -, hheld'⟩
    · exact hcanonical
    · obtain ⟨listed, hlisted, horder⟩ := hcanonical
      obtain rfl := hlisted.unique hheld'
      exact ⟨signatures, hheld, (List.pairwise_append.mp horder).1⟩
  · intro existing key signature hnew other signature' hmem
    obtain rfl := hnew.existing_eq hheld
    obtain ⟨result, h⟩ := h
    have hcall := signSorobanAuthorizationEntry_eq_ok.mpr ⟨_, key, signature, hnew, rfl⟩
    obtain rfl : entry' = _ := (Prod.mk.inj (h.symm.trans hcall)).2
    obtain ⟨listed, hlisted, horder⟩ := hcanonical
    obtain rfl := hlisted.unique hheld.append
    exact (List.pairwise_append.mp horder).2.2 _ (mem_signatureValues.mp hmem) _
      (List.mem_singleton_self _)

/-! ### Runs -/

theorem canonical_of_ordered (h : Run (OrderedStep p xdr) entry calls final)
    (hunsigned : UnsignedDirect entry) : CanonicalSignatures final := by
  induction h with
  | nil => exact hunsigned.canonical
  | snoc _ hstep ih => exact hstep.canonical ih

theorem holds_of_run (h : Run (SigningStep p xdr) entry calls final)
    (hunsigned : UnsignedDirect entry) : ∃ signatures, Holds final signatures := by
  induction h with
  | nil => exact ⟨[], hunsigned.holds⟩
  | snoc _ hstep ih => exact hstep.holds ih

theorem ordered_of_canonical (h : Run (SigningStep p xdr) entry calls final)
    (hunsigned : UnsignedDirect entry) (hcanonical : CanonicalSignatures final) :
    Run (OrderedStep p xdr) entry calls final := by
  induction h with
  | nil => exact .nil
  | snoc hrun hstep ih =>
    obtain ⟨signatures, hheld⟩ := holds_of_run hrun hunsigned
    obtain ⟨hbefore, hinOrder⟩ := hstep.ordered_of_canonical hheld hcanonical
    exact .snoc (ih hbefore) ⟨hstep, hinOrder⟩

/-! ### The same signers in another order -/

/-- The entry with one signature. -/
def signedOnce (entry : SorobanAuthorizationEntry) (s : Uint256 × Vector UInt8 64) :
    SorobanAuthorizationEntry :=
  entry.withSignature (.vec (some (signatureValues [s])))

theorem UnsignedDirect.holds_signedOnce (h : UnsignedDirect entry)
    (s : Uint256 × Vector UInt8 64) : Holds (signedOnce entry s) [s] := h.holds_values [s]

/-- One call brings one signature. -/
theorem Brings.unique {s t : Uint256 × Vector UInt8 64} (hs : Brings p xdr entry call s)
    (ht : Brings p xdr entry call t) : s = t := by
  obtain ⟨request, hrequest, hanswer, -⟩ := hs.answer
  obtain ⟨request', hrequest', hanswer', -⟩ := ht.answer
  obtain rfl := Except.ok.inj (hrequest.symm.trans hrequest')
  apply Prod.ext
  · exact Option.some.inj (hs.publicKey.symm.trans ht.publicKey)
  · exact Except.ok.inj (hanswer.symm.trans hanswer')

theorem Brings.step {s : Uint256 × Vector UInt8 64} (h : Brings p xdr entry call s)
    (hstep : SigningStep p xdr entry call entry') : entry' = signedOnce entry s := by
  obtain ⟨result, hstep⟩ := hstep
  have hcall := signSorobanAuthorizationEntry_eq_ok.mpr ⟨[], s.1, s.2, h, rfl⟩
  exact (Prod.mk.inj (hstep.symm.trans hcall)).2

/-- A call that brings no signature leaves an unsigned entry as it was. -/
theorem SigningStep.eq_of_not_brings (hunsigned : UnsignedDirect entry)
    (hstep : SigningStep p xdr entry call entry') (h : ∀ s, ¬ Brings p xdr entry call s) :
    entry' = entry := by
  rcases hstep.appends hunsigned.holds with rfl | ⟨key, signature, hnew, -⟩
  · rfl
  · exact absurd hnew (h (key, signature))

/-- The preimage of an entry, and so the request for it, is there whatever is signed. -/
theorem prepare_of_prepare_withSignature {value : ScVal}
    {first request : SorobanAuthorizationSigningRequest EntryBytes PreimageBytes}
    {passphrase : String}
    (hfirst : prepareSorobanAuthorizationSigning p xdr entry passphrase = .ok first)
    (h : prepareSorobanAuthorizationSigning p xdr (entry.withSignature value) networkPassphrase =
      .ok request) :
    ∃ unsigned, prepareSorobanAuthorizationSigning p xdr entry networkPassphrase = .ok unsigned ∧
      unsigned.authorizationHash = request.authorizationHash := by
  simp only [prepareSorobanAuthorizationSigning, bind_eq_ok, pure_eq_ok, Except.ok.injEq,
    sorobanAuthorizationPreimage_withSignature] at h hfirst ⊢
  obtain ⟨encoded, hencoded, -⟩ := hfirst
  obtain ⟨_, -, preimage, hpreimage, bytes, hbytes, rfl⟩ := h
  exact ⟨_, ⟨encoded, hencoded, preimage, hpreimage, bytes, hbytes, rfl⟩, rfl⟩

/-- What a deterministic signer adds to a signed entry, it would add to the unsigned one. -/
theorem NewSignature.brings {existing : List ScVal} {value : ScVal}
    {first : String × SorobanAuthorizationSigner EntryBytes PreimageBytes}
    {s : Uint256 × Vector UInt8 64} (hdeterministic : call.2.Deterministic)
    (hfirst : Brings p xdr entry first s)
    (h : NewSignature p xdr (entry.withSignature value) call.1 call.2 existing key signature) :
    Brings p xdr entry call (key, signature) where
  account := hfirst.account
  held := hfirst.held
  answer := by
    obtain ⟨unsigned, hunsigned, -⟩ := hfirst.answer
    obtain ⟨request, hrequest, hanswer, hverify⟩ := h.answer
    obtain ⟨unsigned', hprepared, hhash⟩ := prepare_of_prepare_withSignature hunsigned hrequest
    exact ⟨unsigned', hprepared, (hdeterministic unsigned' request hhash).trans hanswer,
      hhash ▸ hverify⟩
  publicKey := h.publicKey
  fresh := List.not_mem_nil
  room := by decide

/-- Deterministic signers of one signature leave the entry with it, if one of them signs. -/
theorem final_of_oneSignature (hunsigned : UnsignedDirect entry)
    (hrun : Run (SigningStep p xdr) entry calls final)
    (hcalls : ∀ call ∈ calls, call.2.Deterministic) (hone : OneSignature p xdr entry calls) :
    (final = entry ∧ ∀ call ∈ calls, ∀ s, ¬ Brings p xdr entry call s) ∨
      ∃ call ∈ calls, ∃ s, Brings p xdr entry call s ∧ final = signedOnce entry s := by
  induction hrun with
  | nil => exact Or.inl ⟨rfl, nofun⟩
  | snoc hrun hstep ih =>
    rename_i before middle last call
    have hlast : call ∈ before ++ [call] := List.mem_append_right _ (List.mem_singleton_self _)
    have hbefore : ∀ other ∈ before, other ∈ before ++ [call] :=
      fun other hother => List.mem_append_left _ hother
    have hearlier := ih (fun other hother => hcalls other (hbefore other hother))
      fun other hother third hthird =>
        hone other (hbefore other hother) third (hbefore third hthird)
    rcases hearlier with ⟨rfl, hnone⟩ | ⟨first, hfirst, s, hbrings, rfl⟩
    · by_cases hcall : ∃ s, Brings p xdr middle call s
      · obtain ⟨s, hbrings⟩ := hcall
        exact Or.inr ⟨call, hlast, s, hbrings, hbrings.step hstep⟩
      · rw [not_exists] at hcall
        refine Or.inl ⟨hstep.eq_of_not_brings hunsigned hcall, ?_⟩
        intro other hother
        rcases List.mem_append.mp hother with hother | hother
        · exact hnone other hother
        · rw [List.mem_singleton.mp hother]
          exact hcall
    -- the signature is there already, and no other one comes
    · refine Or.inr ⟨first, hbefore first hfirst, s, hbrings, ?_⟩
      rcases hstep.appends (hunsigned.holds_signedOnce s) with heq | ⟨key, signature, hnew, -⟩
      · exact heq
      · have hsame := hone first (hbefore first hfirst) call hlast s (key, signature) hbrings
          (hnew.brings (hcalls call hlast) hbrings)
        refine absurd (mem_signatureValues.mpr ?_) hnew.fresh
        rw [hsame]
        exact List.mem_singleton_self _

/-- Every order of the calls leaves the same entry. -/
theorem final_eq_of_oneSignature (hunsigned : UnsignedDirect entry) (hperm : calls.Perm calls')
    (hcalls : ∀ call ∈ calls, call.2.Deterministic) (hone : OneSignature p xdr entry calls)
    (hrun : Run (SigningStep p xdr) entry calls final)
    (hrun' : Run (SigningStep p xdr) entry calls' final') : final' = final := by
  have hmem : ∀ call ∈ calls', call ∈ calls := fun call hcall => hperm.mem_iff.mpr hcall
  have hends := final_of_oneSignature hunsigned hrun hcalls hone
  have hends' := final_of_oneSignature hunsigned hrun'
    (fun call hcall => hcalls call (hmem call hcall))
    fun call hcall other hother => hone call (hmem call hcall) other (hmem other hother)
  rcases hends with ⟨rfl, hnone⟩ | ⟨call, hcall, s, hbrings, rfl⟩
  · rcases hends' with ⟨rfl, -⟩ | ⟨call, hcall, s, hbrings, -⟩
    · rfl
    · exact absurd hbrings (hnone call (hmem call hcall) s)
  · rcases hends' with ⟨-, hnone⟩ | ⟨other, hother, t, hbrings', rfl⟩
    · exact absurd hbrings (hnone call (hperm.mem_iff.mp hcall) s)
    · rw [hone call hcall other (hmem other hother) s t hbrings hbrings']

/-- Calls always return. -/
theorem exists_run (entry : SorobanAuthorizationEntry)
    (calls : List (String × SorobanAuthorizationSigner EntryBytes PreimageBytes)) :
    ∃ final, Run (SigningStep p xdr) entry calls final := by
  induction calls generalizing entry with
  | nil => exact ⟨entry, .nil⟩
  | cons call calls ih =>
    obtain ⟨final, hrun⟩ := ih (signSorobanAuthorizationEntry p xdr call.1 call.2 entry).2
    exact ⟨final, .cons ⟨_, rfl⟩ hrun⟩

/-- No call removes a signature, or changes its place. -/
theorem holds_prefix (hrun : Run (SigningStep p xdr) entry calls final)
    (hheld : Holds entry signatures) : ∃ more, Holds final (signatures ++ more) := by
  induction hrun with
  | nil => exact ⟨[], (List.append_nil signatures).symm ▸ hheld⟩
  | snoc _ hstep ih =>
    obtain ⟨more, hmore⟩ := ih
    rcases hstep.appends hmore with rfl | ⟨key, signature, -, hheld'⟩
    · exact ⟨more, hmore⟩
    · exact ⟨more ++ [(key, signature)], List.append_assoc .. ▸ hheld'⟩

/-- A call that signs comes first in the entry where it comes first in the run. -/
theorem exists_final_of_brings {s : Uint256 × Vector UInt8 64} (hunsigned : UnsignedDirect entry)
    (hcall : call ∈ calls) (hbrings : Brings p xdr entry call s) :
    ∃ calls' final' more, calls.Perm calls' ∧ Run (SigningStep p xdr) entry calls' final' ∧
      Holds final' (s :: more) := by
  obtain ⟨before, after, rfl⟩ := List.append_of_mem hcall
  obtain ⟨final', hrun⟩ : ∃ final', Run (SigningStep p xdr) (signedOnce entry s) (before ++ after)
      final' := exists_run _ _
  obtain ⟨more, hheld⟩ := holds_prefix hrun (hunsigned.holds_signedOnce s)
  have hsigned : SigningStep p xdr entry call (signedOnce entry s) :=
    ⟨_, signSorobanAuthorizationEntry_eq_ok.mpr ⟨[], s.1, s.2, hbrings, rfl⟩⟩
  exact ⟨call :: (before ++ after), final', more, List.perm_middle, .cons hsigned hrun, hheld⟩

/-- Deterministic signers that leave one entry in every order bring one signature. -/
theorem oneSignature_of_sameEntry (hunsigned : UnsignedDirect entry)
    (hsame : ∀ calls' final', calls.Perm calls' →
      Run (SigningStep p xdr) entry calls' final' → final' = final) :
    OneSignature p xdr entry calls := by
  intro call hcall other hother s t hs ht
  obtain ⟨calls', final', more, hperm, hrun, hheld⟩ := exists_final_of_brings hunsigned hcall hs
  obtain ⟨calls'', final'', more', hperm', hrun', hheld'⟩ :=
    exists_final_of_brings hunsigned hother ht
  rw [hsame _ _ hperm hrun] at hheld
  rw [hsame _ _ hperm' hrun'] at hheld'
  exact (List.cons.inj (hheld.unique hheld')).1

/-- A run of calls ends in canonical form exactly when each of its calls was in order and,
where the signers are deterministic, they had one signature to add. -/
theorem signing_endsCanonically_iff (hunsigned : UnsignedDirect entry)
    (hrun : Run (SigningStep p xdr) entry calls final) :
    EndsCanonically p xdr entry calls final ↔
      Run (OrderedStep p xdr) entry calls final ∧
        ((∀ call ∈ calls, call.2.Deterministic) → OneSignature p xdr entry calls) := by
  constructor
  · intro h
    refine ⟨ordered_of_canonical hrun hunsigned h.canonical, fun hcalls => ?_⟩
    exact oneSignature_of_sameEntry hunsigned fun calls' final' hperm hrun' =>
      h.sameEntry calls' final' hperm hcalls hrun'
  · rintro ⟨hordered, hone⟩
    have hcanonical := canonical_of_ordered hordered hunsigned
    exact
      { canonical := hcanonical
        once := fun _ hheld => hcanonical.nodup hheld
        sameEntry := fun _ _ hperm hcalls hrun' =>
          final_eq_of_oneSignature hunsigned hperm hcalls (hone hcalls) hrun hrun' }

/-! ### Two signers of one account -/

/-- The primitives over values, with two valid signatures of each key. -/
def twoAnswerPrimitives : Primitives TransactionEnvelope (String × TaggedTransaction) :=
  { Primitives.ideal with
    verifyStrict := fun key _ signature =>
      signature = key.toList ++ key.toList ∨ signature = key.toList ++ List.replicate 32 9 }

/-- The key that repeats one byte, and a signature that ends in another. -/
def byteSignature (byte half : UInt8) : Uint256 × Vector UInt8 64 :=
  let key : Vector UInt8 32 := Vector.replicate 32 byte
  (key, key ++ (Vector.replicate 32 half : Vector UInt8 32))

def byteSigner (byte half : UInt8) :
    SorobanAuthorizationSigner SorobanAuthorizationEntry HashIdPreimage where
  publicKey := Sep23.strKey.publicKey (byteSignature byte half).1
  signSorobanAuthorization _ := .ok (byteSignature byte half).2

def byteCall (byte half : UInt8) :
    String × SorobanAuthorizationSigner SorobanAuthorizationEntry HashIdPreimage :=
  ("Test SDF Network ; September 2015", byteSigner byte half)

def unsignedEntry : SorobanAuthorizationEntry :=
  ⟨.addressV2 ⟨.account (Vector.replicate 32 0), .lit 7, .lit 4242, .void⟩,
    .mk (.contractFn ⟨.contract (Vector.replicate 32 0), Utf8.bytes "transfer", []⟩) []⟩

/-- The entry after one call, whatever it returns. -/
def calledEntry
    (call : String × SorobanAuthorizationSigner SorobanAuthorizationEntry HashIdPreimage)
    (entry : SorobanAuthorizationEntry) : SorobanAuthorizationEntry :=
  (signSorobanAuthorizationEntry twoAnswerPrimitives idealAuthorizationXdr call.1 call.2 entry).2

theorem unsignedDirect_unsignedEntry : UnsignedDirect unsignedEntry :=
  ⟨_, _, rfl, rfl, rfl⟩

theorem run_calledEntry
    (first second : String × SorobanAuthorizationSigner SorobanAuthorizationEntry HashIdPreimage) :
    Run (SigningStep twoAnswerPrimitives idealAuthorizationXdr) unsignedEntry [first, second]
      (calledEntry second (calledEntry first unsignedEntry)) :=
  .cons ⟨_, rfl⟩ (.single ⟨_, rfl⟩)

/-- A signer of the key that repeats 1, with another answer for an entry with signatures. -/
def changingCall : String × SorobanAuthorizationSigner SorobanAuthorizationEntry HashIdPreimage :=
  ("Test SDF Network ; September 2015",
    { byteSigner 1 1 with
      signSorobanAuthorization := fun request =>
        .ok (if request.authorizationEntryXdr = unsignedEntry then (byteSignature 1 1).2
          else (byteSignature 1 9).2) })

theorem changingCall_not_deterministic : ¬ changingCall.2.Deterministic := by
  intro h
  let request (authorized : SorobanAuthorizationEntry) :
      SorobanAuthorizationSigningRequest SorobanAuthorizationEntry HashIdPreimage :=
    { authorizationHash := Vector.replicate 32 0
      authorizationEntryXdr := authorized
      authorizationPreimageXdr := .other []
      networkPassphrase := "Test SDF Network ; September 2015" }
  have hsame := h (request unsignedEntry)
    (request (signedOnce unsignedEntry (byteSignature 0 0))) rfl
  exact absurd hsame (by decide +kernel)

theorem byteCall_deterministic (byte half : UInt8) : (byteCall byte half).2.Deterministic :=
  fun _ _ _ => rfl

/-- The entry with two signatures is in canonical form when their keys ascend. -/
theorem canonical_pair_iff (hunsigned : UnsignedDirect entry) {s t : Uint256 × Vector UInt8 64} :
    CanonicalSignatures (entry.withSignature (.vec (some (signatureValues [s, t])))) ↔
      s.1.toList < t.1.toList := by
  have hheld : Holds (entry.withSignature (.vec (some (signatureValues [s, t])))) [s, t] :=
    hunsigned.holds_values [s, t]
  constructor
  · intro h
    obtain ⟨listed, hlisted, horder⟩ := h
    obtain rfl := hlisted.unique hheld
    simpa using horder
  · intro h
    exact ⟨[s, t], hheld, by simpa using h⟩

/-- The signer of key 0, and then one of key 1 that does not answer alike, leave a canonical
entry, and so do two calls of one deterministic signer. -/
theorem signing_endsCanonically_twoRuns :
    EndsCanonically twoAnswerPrimitives idealAuthorizationXdr unsignedEntry
        [byteCall 0 0, changingCall]
        (unsignedEntry.withSignature
          (.vec (some (signatureValues [byteSignature 0 0, byteSignature 1 9])))) ∧
      EndsCanonically twoAnswerPrimitives idealAuthorizationXdr unsignedEntry
        [byteCall 0 0, byteCall 0 0] (signedOnce unsignedEntry (byteSignature 0 0)) := by
  have hchanging : calledEntry changingCall (calledEntry (byteCall 0 0) unsignedEntry) =
      unsignedEntry.withSignature
        (.vec (some (signatureValues [byteSignature 0 0, byteSignature 1 9]))) := by
    decide +kernel
  have hagain : calledEntry (byteCall 0 0) (calledEntry (byteCall 0 0) unsignedEntry) =
      signedOnce unsignedEntry (byteSignature 0 0) := by decide +kernel
  have hchangingRun := run_calledEntry (byteCall 0 0) changingCall
  have hagainRun := run_calledEntry (byteCall 0 0) (byteCall 0 0)
  rw [hchanging] at hchangingRun
  rw [hagain] at hagainRun
  -- two signers of which one is not deterministic, and one signer twice
  constructor
  · refine (signing_endsCanonically_iff unsignedDirect_unsignedEntry hchangingRun).mpr ⟨?_, ?_⟩
    · apply ordered_of_canonical hchangingRun unsignedDirect_unsignedEntry
      rw [canonical_pair_iff unsignedDirect_unsignedEntry]
      decide
    · intro hcalls
      exact absurd (hcalls changingCall (by simp)) changingCall_not_deterministic
  · refine (signing_endsCanonically_iff unsignedDirect_unsignedEntry hagainRun).mpr ⟨?_, ?_⟩
    · apply ordered_of_canonical hagainRun unsignedDirect_unsignedEntry
      exact ⟨_, unsignedDirect_unsignedEntry.holds_signedOnce _, List.pairwise_singleton _ _⟩
    · intro _ call hcall other hother s t hs ht
      obtain rfl : call = byteCall 0 0 := by simpa using hcall
      obtain rfl : other = byteCall 0 0 := by simpa using hother
      exact hs.unique ht

/-- In the other order the keys decrease, a signer that answers twice is listed twice, and
two deterministic signers leave another entry in each order. -/
theorem signing_leaves_canonical_form :
    (∃ final, Run (SigningStep twoAnswerPrimitives idealAuthorizationXdr) unsignedEntry
        [byteCall 1 1, byteCall 0 0] final ∧ ¬ CanonicalSignatures final) ∧
      (∃ final, Run (SigningStep twoAnswerPrimitives idealAuthorizationXdr) unsignedEntry
        [byteCall 0 0, byteCall 0 9] final ∧ ¬ CanonicalSignatures final) ∧
      ∃ final final', Run (SigningStep twoAnswerPrimitives idealAuthorizationXdr) unsignedEntry
          [byteCall 0 0, byteCall 1 1] final ∧
        Run (SigningStep twoAnswerPrimitives idealAuthorizationXdr) unsignedEntry
          [byteCall 1 1, byteCall 0 0] final' ∧
        (byteCall 0 0).2.Deterministic ∧ (byteCall 1 1).2.Deterministic ∧ final' ≠ final := by
  have hdescending : calledEntry (byteCall 0 0) (calledEntry (byteCall 1 1) unsignedEntry) =
      unsignedEntry.withSignature
        (.vec (some (signatureValues [byteSignature 1 1, byteSignature 0 0]))) := by
    decide +kernel
  have htwice : calledEntry (byteCall 0 9) (calledEntry (byteCall 0 0) unsignedEntry) =
      unsignedEntry.withSignature
        (.vec (some (signatureValues [byteSignature 0 0, byteSignature 0 9]))) := by
    decide +kernel
  have hother : calledEntry (byteCall 0 0) (calledEntry (byteCall 1 1) unsignedEntry) ≠
      calledEntry (byteCall 1 1) (calledEntry (byteCall 0 0) unsignedEntry) := by
    decide +kernel
  refine ⟨⟨_, run_calledEntry _ _, ?_⟩, ⟨_, run_calledEntry _ _, ?_⟩,
    _, _, run_calledEntry _ _, run_calledEntry _ _, byteCall_deterministic 0 0,
    byteCall_deterministic 1 1, hother⟩
  -- the greater key first, one key twice, and both orders of two signers
  · rw [hdescending, canonical_pair_iff unsignedDirect_unsignedEntry]
    decide
  · rw [htwice, canonical_pair_iff unsignedDirect_unsignedEntry]
    decide

end Fresnica
