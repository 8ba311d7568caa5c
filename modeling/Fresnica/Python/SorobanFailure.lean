import Fresnica.Python.SorobanService

/-!
# A failed authorization in the Python reference

The entries are put in place one by one, and nothing takes the earlier ones back when a
later one fails. A failed authorization leaves the transaction as it was exactly when no
entry before the one that fails was changed.

## Main definitions

* `IsReviewed` — the transaction is as it was reviewed
* `Refused`, `Unchanged` — what becomes of the entry at a position
* `FailureLeaves` — a failed authorization leaves the transaction as it was
* `ChangesNoneBeforeRefusal` — the entries before the first that is refused stay

## Main results

* `authorize_error_cases`, `authorize_of_refused` — what a failed authorization leaves behind
* `failureLeaves_iff` — when it leaves the transaction as it was
-/

namespace Fresnica.Python.Soroban

open Foundation

section Definitions

variable (a : SorobanRpcAdapter) (signers : String → Option AuthorizationSigner)

/-- The transaction has the reviewed envelope, with this operation in it and as many
entries as were reviewed. -/
structure IsReviewed (prepared : PreparedSorobanTransaction) (source : Option MuxedAccount)
    (invoke : InvokeHostFunctionOp) (sources : String × String) : Prop where
  binding : prepared.assertReviewBinding a = .ok ()
  operation : a.invokeOperation prepared.envelope = .ok ((source, invoke), sources)
  count : invoke.auth.length = prepared.review.authEntryCount

/-- No entry takes the place of the one at the position. -/
def Refused (auth : List SorobanAuthorizationEntry) (index : ℕ) : Prop :=
  ∃ entry, auth[index]? = some entry ∧ ∀ signed, ¬ Authorized a signers index entry signed

/-- The entry at the position takes its own place. -/
def Unchanged (auth : List SorobanAuthorizationEntry) (index : ℕ) : Prop :=
  ∀ entry, auth[index]? = some entry → Authorized a signers index entry entry

/-- If an entry is refused, the ones before the first refused entry stay as they are. -/
def ChangesNoneBeforeRefusal (prepared : PreparedSorobanTransaction) : Prop :=
  ∀ source invoke sources, IsReviewed a prepared source invoke sources →
    ∀ index, Refused a signers invoke.auth index →
      (∀ earlier < index, ¬ Refused a signers invoke.auth earlier) →
      ∀ earlier < index, Unchanged a signers invoke.auth earlier

/-- An authorization that fails leaves the transaction as it was, so that its binding still
holds, and so that later signers succeed with it exactly when they would have succeeded
with it before. -/
def FailureLeaves (prepared : PreparedSorobanTransaction) : Prop :=
  ∀ error after, authorize a signers prepared = (.error error, after) →
    after = prepared ∧
    (prepared.assertReviewBinding a = .ok () → after.assertReviewBinding a = .ok ()) ∧
    ∀ later, (authorize a later after).1.isOk = (authorize a later prepared).1.isOk

end Definitions

variable {a : SorobanRpcAdapter} {signers : String → Option AuthorizationSigner}
  {prepared after : PreparedSorobanTransaction} {source : Option MuxedAccount}
  {invoke : InvokeHostFunctionOp} {sources : String × String} {entry : SorobanAuthorizationEntry}
  {before rest answers : List SorobanAuthorizationEntry} {start index : ℕ} {error : SorobanError}
  {facts : List SorobanAuthorizationEntryFacts}

/-! ### Entries by their position -/

namespace AllAuthorized

theorem length_eq (h : AllAuthorized a signers start before answers) :
    answers.length = before.length := by
  induction h with
  | nil => rfl
  | cons _ _ ih => rw [List.length_cons, List.length_cons, ih]

/-- The entry after the answers stands where it stood. -/
theorem getElem?_append (h : AllAuthorized a signers start before answers) :
    (answers ++ entry :: rest)[before.length]? = some entry := by
  rw [← h.length_eq, List.getElem?_append_right (Nat.le_refl _), Nat.sub_self]
  rfl

/-- Every entry is authorized where it stands. -/
theorem getElem? (h : AllAuthorized a signers start before answers)
    (hentry : before[index]? = some entry) :
    ∃ signed, answers[index]? = some signed ∧
      Authorized a signers (start + index) entry signed := by
  induction h generalizing index with
  | nil => exact absurd hentry (by simp)
  | cons hfirst _ ih =>
    cases index with
    | zero =>
      obtain rfl := Option.some.inj hentry
      exact ⟨_, rfl, hfirst⟩
    | succ index =>
      obtain ⟨signed, hsigned, hauthorized⟩ := ih hentry
      refine ⟨signed, hsigned, ?_⟩
      rw [← Nat.add_assoc, Nat.add_right_comm]
      exact hauthorized

theorem exists_of_forall (h : ∀ index entry, before[index]? = some entry →
      ∃ signed, Authorized a signers (start + index) entry signed) :
    ∃ answers, AllAuthorized a signers start before answers := by
  induction before generalizing start with
  | nil => exact ⟨[], .nil⟩
  | cons entry before ih =>
    obtain ⟨signed, hsigned⟩ := h 0 entry rfl
    have hrest : ∃ answers, AllAuthorized a signers (start + 1) before answers := by
      apply ih
      intro index other hother
      obtain ⟨signed, hsigned⟩ := h (index + 1) other hother
      rw [← Nat.add_assoc, Nat.add_right_comm] at hsigned
      exact ⟨signed, hsigned⟩
    obtain ⟨answers, hanswers⟩ := hrest
    exact ⟨signed :: answers, .cons hsigned hanswers⟩

/-- Entries that take their own places are all there is. -/
theorem eq_of_forall (h : AllAuthorized a signers start before answers)
    (hsame : ∀ index entry, before[index]? = some entry →
      Authorized a signers (start + index) entry entry) : answers = before := by
  apply List.ext_getElem?
  intro index
  cases hentry : before[index]? with
  | none =>
    rw [List.getElem?_eq_none_iff] at hentry ⊢
    rw [h.length_eq]
    exact hentry
  | some entry =>
    obtain ⟨signed, hsigned, hauthorized⟩ := h.getElem? hentry
    rw [hsigned, hauthorized.unique (hsame index entry hentry)]

end AllAuthorized

/-! ### What a failed authorization leaves behind -/

theorem length_factsFrom {operationSource : String} :
    (a.factsFrom operationSource start before).length = before.length := by
  induction before generalizing start with
  | nil => rfl
  | cons entry before ih =>
    rw [SorobanRpcAdapter.factsFrom, List.length_cons, List.length_cons, ih]

theorem factsFrom_append {operationSource : String} :
    a.factsFrom operationSource start (before ++ rest) =
      a.factsFrom operationSource start before ++
        a.factsFrom operationSource (start + before.length) rest := by
  induction before generalizing start with
  | nil => rfl
  | cons entry before ih =>
    rw [List.cons_append, SorobanRpcAdapter.factsFrom, SorobanRpcAdapter.factsFrom, ih,
      List.cons_append, List.length_cons, Nat.add_right_comm, Nat.add_assoc]

/-- Facts that stand after others are those of an entry that stands after others. -/
theorem exists_of_factsFrom {operationSource : String}
    {first last : List SorobanAuthorizationEntryFacts} {fact : SorobanAuthorizationEntryFacts}
    {auth : List SorobanAuthorizationEntry}
    (h : a.factsFrom operationSource start auth = first ++ fact :: last) :
    ∃ before entry rest, auth = before ++ entry :: rest ∧
      first = a.factsFrom operationSource start before ∧
      fact = a.authorizationEntryFacts operationSource (start + before.length) entry := by
  induction first generalizing start auth with
  | nil =>
    cases auth with
    | nil => exact absurd h nofun
    | cons entry rest => exact ⟨[], entry, rest, rfl, rfl, (List.cons.inj h).1.symm⟩
  | cons other first ih =>
    cases auth with
    | nil => exact absurd h nofun
    | cons head auth =>
      obtain ⟨rfl, htail⟩ := List.cons.inj h
      obtain ⟨before, entry, rest, rfl, hfirst, hfact⟩ := ih htail
      refine ⟨head :: before, entry, rest, rfl, ?_, ?_⟩
      · rw [hfirst, SorobanRpcAdapter.factsFrom]
      · rw [hfact, List.length_cons, Nat.add_right_comm, Nat.add_assoc]

theorem reviewedEntries_eq_ok : reviewedEntries a prepared = .ok facts ↔
    ∃ source invoke sources, IsReviewed a prepared source invoke sources ∧
      facts = a.factsFrom sources.2 0 invoke.auth := by
  rw [reviewedEntries, unit_bind_eq_ok, SorobanRpcAdapter.authorizationEntries]
  constructor
  · intro ⟨hbinding, h⟩
    obtain ⟨entries, hentries, h⟩ := bind_eq_ok.mp h
    obtain ⟨⟨⟨source, invoke⟩, sources⟩, hoperation, hfacts⟩ := bind_eq_ok.mp hentries
    obtain ⟨hcount, hresult⟩ := ensure_bind_eq_ok.mp h
    obtain rfl := Except.ok.inj hfacts
    rw [length_factsFrom] at hcount
    exact ⟨source, invoke, sources, ⟨hbinding, hoperation, hcount⟩,
      (Except.ok.inj hresult).symm⟩
  · intro ⟨source, invoke, sources, ⟨hbinding, hoperation, hcount⟩, hfacts⟩
    refine ⟨hbinding, ?_⟩
    rw [hoperation, hfacts]
    apply ensure_bind_eq_ok.mpr
    exact ⟨length_factsFrom.trans hcount, rfl⟩

/-- The transaction with other entries. -/
def withAnswers (prepared : PreparedSorobanTransaction) (source : Option MuxedAccount)
    (invoke : InvokeHostFunctionOp) (auth : List SorobanAuthorizationEntry) :
    PreparedSorobanTransaction :=
  { prepared with envelope := prepared.envelope.withAuth source invoke auth }

/-- A failed authorization changed nothing, or it stopped at an entry that is refused, and
the answers are in the places of the entries before it. -/
theorem authorize_error_cases (h : authorize a signers prepared = (.error error, after)) :
    after = prepared ∨
    ∃ source invoke sources before entry rest answers,
      IsReviewed a prepared source invoke sources ∧ invoke.auth = before ++ entry :: rest ∧
      AllAuthorized a signers 0 before answers ∧
      (∀ signed, ¬ Authorized a signers before.length entry signed) ∧
      after = withAnswers prepared source invoke (answers ++ entry :: rest) := by
  rw [authorize] at h
  cases hentries : reviewedEntries a prepared with
  | error e =>
    rw [hentries] at h
    exact .inl (Prod.mk.inj h).2.symm
  | ok facts =>
    obtain ⟨source, invoke, sources, hreviewed, rfl⟩ := reviewedEntries_eq_ok.mp hentries
    rw [hentries] at h
    dsimp only at h
    -- the loop stops at the first entry that is refused, with the ones before it signed
    rcases hloop : forEach (authorizeEntry a signers prepared.review.operationSource)
      (a.factsFrom sources.2 0 invoke.auth) prepared.envelope with ⟨_ | _, envelope⟩
    · rw [hloop] at h
      obtain ⟨first, fact, last, hfacts, hfirst, hfact⟩ := forEach_error_iff.mp hloop
      obtain ⟨before, entry, rest, hauth, rfl, rfl⟩ := exists_of_factsFrom hfacts
      obtain ⟨answers, hanswers, rfl⟩ :=
        (forEach_authorizeEntry_zero hreviewed.operation hauth).mp hfirst
      refine .inr ⟨source, invoke, sources, before, entry, rest, answers, hreviewed, hauth,
        hanswers, ?_, (Prod.mk.inj h).2.symm⟩
      intro signed hsigned
      rw [Nat.zero_add] at hfact
      rw [(authorizeEntry_eq_ok (invokeOperation_withAuth hreviewed.operation)
        hanswers.getElem?_append).mpr
        ⟨signed, hsigned, rfl⟩] at hfact
      exact absurd hfact nofun
    · rw [hloop] at h
      exact absurd (Prod.mk.inj h).1 nofun

/-- At an entry that is refused the authorization fails, with the answers in the places of
the entries before it. -/
theorem authorize_of_refused (hreviewed : IsReviewed a prepared source invoke sources)
    (hauth : invoke.auth = before ++ entry :: rest)
    (hanswers : AllAuthorized a signers 0 before answers)
    (hrefused : ∀ signed, ¬ Authorized a signers before.length entry signed) :
    ∃ error, authorize a signers prepared =
      (.error error, withAnswers prepared source invoke (answers ++ entry :: rest)) := by
  have hfirst : forEach (authorizeEntry a signers prepared.review.operationSource)
      (a.factsFrom sources.2 0 before) prepared.envelope =
      (.ok (), prepared.envelope.withAuth source invoke (answers ++ entry :: rest)) :=
    (forEach_authorizeEntry_zero hreviewed.operation hauth).mpr ⟨answers, hanswers, rfl⟩
  -- the refused entry stops the loop
  cases hstep : authorizeEntry a signers prepared.review.operationSource
      (a.authorizationEntryFacts sources.2 (0 + before.length) entry)
      (prepared.envelope.withAuth source invoke (answers ++ entry :: rest)) with
  | ok envelope =>
    rw [Nat.zero_add] at hstep
    obtain ⟨signed, hsigned, -⟩ :=
      (authorizeEntry_eq_ok (invokeOperation_withAuth hreviewed.operation)
        hanswers.getElem?_append).mp hstep
    exact absurd hsigned (hrefused signed)
  | error e =>
    have hloop : forEach (authorizeEntry a signers prepared.review.operationSource)
        (a.factsFrom sources.2 0 invoke.auth) prepared.envelope =
        (.error e, prepared.envelope.withAuth source invoke (answers ++ entry :: rest)) := by
      rw [hauth, factsFrom_append, SorobanRpcAdapter.factsFrom]
      exact forEach_error_iff.mpr ⟨_, _, _, rfl, hfirst, hstep⟩
    refine ⟨e, ?_⟩
    rw [authorize, reviewedEntries_eq_ok.mpr ⟨source, invoke, sources, hreviewed, rfl⟩]
    dsimp only
    rw [hloop]
    rfl

/-! ### When nothing is left behind -/

/-- An entry before others stands where it stood. -/
theorem getElem?_before {auth : List SorobanAuthorizationEntry}
    (hauth : auth = before ++ entry :: rest) (hindex : index < before.length) :
    auth[index]? = before[index]? := by
  rw [hauth, List.getElem?_append_left hindex]

/-- The transaction is as it was exactly when the answers are the entries before. -/
theorem withAnswers_eq_self (hreviewed : IsReviewed a prepared source invoke sources)
    (hauth : invoke.auth = before ++ entry :: rest) :
    withAnswers prepared source invoke (answers ++ entry :: rest) = prepared ↔
      answers = before := by
  have hself := withAuth_self hreviewed.operation
  constructor
  · intro h
    have henvelope : prepared.envelope.withAuth source invoke (answers ++ entry :: rest) =
        prepared.envelope.withAuth source invoke invoke.auth :=
      (congrArg PreparedSorobanTransaction.envelope h).trans hself.symm
    have hsame := withAuth_injective prepared.envelope source invoke henvelope
    rw [hauth] at hsame
    exact List.append_cancel_right hsame
  · intro h
    rw [withAnswers, h, ← hauth, hself]

/-- A failed authorization leaves the transaction as it was exactly when the entries before
the first that is refused stay as they are. -/
theorem failureLeaves_iff :
    FailureLeaves a signers prepared ↔ ChangesNoneBeforeRefusal a signers prepared := by
  constructor
  · intro hleaves source invoke sources hreviewed index hrefused hfirst earlier hearlier
    obtain ⟨entry, hentry, hnone⟩ := hrefused
    obtain ⟨hlt, hget⟩ := List.getElem?_eq_some_iff.mp hentry
    have hlength : (invoke.auth.take index).length = index := by
      rw [List.length_take, Nat.min_eq_left (Nat.le_of_lt hlt)]
    have hauth : invoke.auth = invoke.auth.take index ++ entry :: invoke.auth.drop (index + 1) := by
      rw [← hget, List.cons_getElem_drop_succ, List.take_append_drop]
    -- nothing before the first refused entry is refused, so all of it was authorized
    obtain ⟨answers, hanswers⟩ : ∃ answers,
        AllAuthorized a signers 0 (invoke.auth.take index) answers := by
      apply AllAuthorized.exists_of_forall
      intro position other hother
      have hposition : position < index := by
        rw [← hlength]
        exact (List.getElem?_eq_some_iff.mp hother).1
      rw [← getElem?_before hauth (hlength.symm ▸ hposition)] at hother
      by_contra hno
      rw [Nat.zero_add, not_exists] at hno
      exact hfirst position hposition ⟨other, hother, hno⟩
    obtain ⟨error, hfails⟩ :=
      authorize_of_refused hreviewed hauth hanswers (hlength.symm ▸ hnone)
    -- what the failure leaves are these answers, so they are the entries themselves
    have hsame := (withAnswers_eq_self hreviewed hauth).mp (hleaves error _ hfails).1
    intro other hother
    rw [getElem?_before hauth (hlength.symm ▸ hearlier)] at hother
    obtain ⟨signed, hsigned, hauthorized⟩ := hanswers.getElem? hother
    rw [hsame, hother] at hsigned
    rwa [Nat.zero_add, ← Option.some.inj hsigned] at hauthorized
  · intro hnone error after hafter
    have hsame : after = prepared := by
      cases authorize_error_cases hafter with
      | inl hsame => exact hsame
      | inr hstopped =>
        obtain ⟨source, invoke, sources, before, entry, rest, answers, hreviewed, hauth, hanswers,
          hrefused, rfl⟩ := hstopped
        rw [withAnswers_eq_self hreviewed hauth]
        have hentry : invoke.auth[before.length]? = some entry := by
          rw [hauth, List.getElem?_append_right (Nat.le_refl _), Nat.sub_self]
          rfl
        -- the entry where it stopped is the first that is refused
        have hkept := hnone source invoke sources hreviewed before.length
          ⟨entry, hentry, hrefused⟩ (by
            intro earlier hearlier ⟨other, hother, hno⟩
            rw [getElem?_before hauth hearlier] at hother
            obtain ⟨signed, -, hauthorized⟩ := hanswers.getElem? hother
            rw [Nat.zero_add] at hauthorized
            exact hno signed hauthorized)
        apply hanswers.eq_of_forall
        intro position other hother
        have hposition := (List.getElem?_eq_some_iff.mp hother).1
        rw [Nat.zero_add]
        apply hkept position hposition
        rw [getElem?_before hauth hposition, hother]
    rw [hsame]
    exact ⟨rfl, id, fun _ => rfl⟩

/-! ### A second entry that is refused -/

def callerAddress : String := "GAAAAAAAAAAAAAAAAAAAAAAAAAAAAAAAAAAAAAAAAAAAAAAAAAAAAWHF"

/-- An entry of the account with the key of zeros, for a call of `f`. -/
def callerEntry (nonce : I64) (signature : ScVal) : SorobanAuthorizationEntry where
  credentials := .address ⟨.account (Vector.replicate 32 0), nonce, .lit 500, signature⟩
  rootInvocation := .mk (.contractFn ⟨.contract (Vector.replicate 32 7), [102], []⟩) []

/-- The texts of two entries, and of the first one with a signature. -/
def callerTexts : List (SorobanAuthorizationEntry × String) :=
  [(callerEntry (.lit 1) .void,
      "AAAAAQAAAAAAAAAAAAAAAAAAAAAAAAAAAAAAAAAAAAAAAAAAAAAAAAAAAAAAAAAAAAAAAQAAAfQAAAABAAAA" ++
      "AAAAAAEHBwcHBwcHBwcHBwcHBwcHBwcHBwcHBwcHBwcHBwcHBwAAAAFmAAAAAAAAAAAAAAA="),
    (callerEntry (.lit 1) (.bytes [1]),
      "AAAAAQAAAAAAAAAAAAAAAAAAAAAAAAAAAAAAAAAAAAAAAAAAAAAAAAAAAAAAAAAAAAAAAQAAAfQAAAANAAAA" ++
      "AQEAAAAAAAAAAAAAAQcHBwcHBwcHBwcHBwcHBwcHBwcHBwcHBwcHBwcHBwcHAAAAAWYAAAAAAAAAAAAAAA=="),
    (callerEntry (.lit 2) .void,
      "AAAAAQAAAAAAAAAAAAAAAAAAAAAAAAAAAAAAAAAAAAAAAAAAAAAAAAAAAAAAAAAAAAAAAgAAAfQAAAABAAAA" ++
      "AAAAAAEHBwcHBwcHBwcHBwcHBwcHBwcHBwcHBwcHBwcHBwcHBwAAAAFmAAAAAAAAAAAAAAA=")]

def callerText (entry : SorobanAuthorizationEntry) : String :=
  ((callerTexts.find? fun known => known.1 = entry).map Prod.snd).getD ""

/-- The texts of the entries of an envelope, which stand for the text of the envelope. -/
def entryTexts (envelope : Envelope) : String :=
  String.join (envelope.transaction.operations.flatMap fun operation =>
    match operation.body with
    | .invokeHostFunction invoke => invoke.auth.map callerText
    | _ => [])

def callerAdapter : SorobanRpcAdapter where
  passphrase := "Test SDF Network ; September 2015"
  entryToXdr := callerText
  entryFromXdr text := okOr ((callerTexts.find? fun known => known.2 = text).map Prod.fst)
    ⟨true, "Invalid base64-encoded string"⟩
  invocationToXdr _ :=
    "AAAAAAAAAAEHBwcHBwcHBwcHBwcHBwcHBwcHBwcHBwcHBwcHBwcHBwAAAAFmAAAAAAAAAAAAAAA="
  address _ := callerAddress
  universalAccountId _ := callerAddress
  toXdr := entryTexts
  hashHex := entryTexts

def callerEnvelope : Envelope where
  networkPassphrase := "Test SDF Network ; September 2015"
  v1 := true
  transaction :=
    { sourceAccount := .ed25519 (Vector.replicate 32 0)
      fee := .lit 100
      seqNum := .lit 5
      cond := .none
      memo := .none
      operations := [⟨none, .invokeHostFunction
        ⟨.invokeContract ⟨.contract (Vector.replicate 32 7), [102], []⟩,
          [callerEntry (.lit 1) .void, callerEntry (.lit 2) .void]⟩⟩]
      ext := .v1 ⟨[], .lit 90⟩ }
  signatures := []

def callerPrepared : PreparedSorobanTransaction where
  envelope := callerEnvelope
  review := ⟨callerAddress, 2⟩
  reviewedEnvelopeXdr := entryTexts callerEnvelope
  reviewedTransactionHash := entryTexts callerEnvelope
  authorizedEnvelopeXdr := none
  authorizedTransactionHash := none

/-- A signer that signs the first entry, and is cancelled at the second one. -/
def callerSigners (authorizer : String) : Option AuthorizationSigner :=
  if authorizer = callerAddress then
    some ⟨some fun index _ _ =>
      if index = 0 then .ok (.text (callerText (callerEntry (.lit 1) (.bytes [1]))))
      else .error "cancelled"⟩
  else none

/-- The first entry stays signed when the second one is refused. -/
theorem authorization_not_undone : ¬ ∀ (a : SorobanRpcAdapter)
    (signers : String → Option AuthorizationSigner) (prepared : PreparedSorobanTransaction),
    FailureLeaves a signers prepared := by
  intro hall
  have hfails : (authorize callerAdapter callerSigners callerPrepared).1 =
      .error (.raised "cancelled") := by
    decide +kernel
  have hchanged : (authorize callerAdapter callerSigners callerPrepared).2 ≠ callerPrepared := by
    decide +kernel
  rcases hrun : authorize callerAdapter callerSigners callerPrepared with ⟨result, after⟩
  rw [hrun] at hfails hchanged
  obtain rfl : result = .error (.raised "cancelled") := hfails
  exact hchanged (hall callerAdapter callerSigners callerPrepared _ after hrun).1

end Fresnica.Python.Soroban
