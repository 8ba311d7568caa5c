import Fresnica.Dex.Offered

/-!
# Offers that the ledger accepts

The ledger enters an offer when both of its lines are authorized and the account stays in order
with the fee paid, and opens the line of what is bought first if the transaction does. A stored
offer is replaced when the new one fits in its place, and it can always be cancelled when the fee
can be paid.

## Main definitions

* `AuthorizedLine`, `MayOpen` — the lines of the two sides
* `Takes` — the ledger accepts the operations of an offer

## Main results

* `ensureFullOfferAuthorization_eq_ok`, `ensureReceivingSide_eq_ok` — the checks of the lines
* `prepareOffer_taken` — the ledger takes an offer that is prepared
-/

namespace Fresnica

open Foundation

/-- The account needs no line of an asset, or has one that is fully authorized. -/
def AuthorizedLine (strKey : StrKey) (account : Json) (accountId : String) (asset : AssetId) :
    Prop :=
  asset.isNative = true ∨ asset.issuerIs strKey accountId = true ∨
    ∃ raw, balanceRow strKey account asset = some raw ∧
      (raw.get? "is_authorized" >>= Json.asBool?) = some true

/-- The account has no line of an asset, and its issuer authorizes every line. -/
structure MayOpen (strKey : StrKey) (gateway : OfferGateway) (account : Json) (accountId : String)
    (asset : AssetId) : Prop where
  notNative : asset.isNative = false
  notIssuer : asset.issuerIs strKey accountId = false
  missing : balanceRow strKey account asset = none
  authorizes : ∃ issuer found, asset.issuer strKey = some issuer ∧
    gateway.getAccount issuer = .ok found ∧ issuerRequiresAuthorization found = .ok false

/-- What a stored offer sells and buys. -/
def StoredLiabilities (offer : Json) (old : OfferLiabilities) : Prop :=
  ∃ amount price, storedAmount offer = .ok amount ∧ horizonPrice offer = .ok price ∧
    offerLiabilities .sell amount price = .ok old

/-- The ledger accepts the operations of an offer, for a fee. -/
inductive Takes (strKey : StrKey) (gateway : OfferGateway) (source : String) (account : Json)
    (reserve fee : ℤ) : List OperationBody → Prop
  | enters {side : OfferSide} {base counter : AssetId} {amount : I64} {price : Price}
      {liabilities : OfferLiabilities}
      (hliabilities : offerLiabilities side amount price = .ok liabilities)
      (hselling : AuthorizedLine strKey account source (side.assets base counter).1)
      (hbuying : AuthorizedLine strKey account source (side.assets base counter).2)
      (hfits : OfferFits strKey source (offerCreated (ledgerAccount strKey account)
        (side.assets base counter).1 (side.assets base counter).2 liabilities false) reserve fee
        (side.assets base counter).1 (side.assets base counter).2) :
      Takes strKey gateway source account reserve fee
        [offerOperation side base counter amount price (.lit 0)]
  | opens {side : OfferSide} {base counter : AssetId} {amount : I64} {price : Price}
      {liabilities : OfferLiabilities}
      (hliabilities : offerLiabilities side amount price = .ok liabilities)
      (hselling : AuthorizedLine strKey account source (side.assets base counter).1)
      (hbuying : MayOpen strKey gateway account source (side.assets base counter).2)
      (hfits : OfferFits strKey source (offerCreated (ledgerAccount strKey account)
        (side.assets base counter).1 (side.assets base counter).2 liabilities true) reserve fee
        (side.assets base counter).1 (side.assets base counter).2) :
      Takes strKey gateway source account reserve fee
        [.changeTrust (side.assets base counter).2.toXdr defaultTrustlineStroops,
          offerOperation side base counter amount price (.lit 0)]
  | replaces {side : OfferSide} {base counter : AssetId} {amount offerId : I64} {price : Price}
      {offer : Json} {old new : OfferLiabilities}
      (hstored : StoredFor strKey gateway source offerId (side.assets base counter).1
        (side.assets base counter).2 offer)
      (hold : StoredLiabilities offer old)
      (hnew : offerLiabilities side amount price = .ok new)
      (hselling : AuthorizedLine strKey account source (side.assets base counter).1)
      (hbuying : AuthorizedLine strKey account source (side.assets base counter).2)
      (hpayable : FeePayable (ledgerAccount strKey account) reserve fee)
      (hfits : UpdateFits strKey source (offerReplaced (ledgerAccount strKey account)
        (side.assets base counter).1 (side.assets base counter).2 old new) reserve fee
        (side.assets base counter).1 (side.assets base counter).2) :
      Takes strKey gateway source account reserve fee
        [offerOperation side base counter amount price offerId]
  | cancels {selling buying : AssetId} {offerId : I64} {price : Price} {offer : Json}
      (hstored : StoredFor strKey gateway source offerId selling buying offer)
      (hprice : horizonPrice offer = .ok price)
      (hpayable : FeePayable (ledgerAccount strKey account) reserve fee) :
      Takes strKey gateway source account reserve fee
        [.manageSellOffer selling.toXdr buying.toXdr (.lit 0) price offerId]

variable {strKey : StrKey} {gateway : OfferGateway} {account : Json} {accountId : String}
variable {asset : AssetId} {addsTrustline allowTrustline : Bool} {baseReserve fee : I64}

/-! ### The lines -/

theorem ensureFullOfferAuthorization_eq_ok :
    ensureFullOfferAuthorization strKey account accountId asset = .ok () ↔
      AuthorizedLine strKey account accountId asset := by
  rw [ensureFullOfferAuthorization, AuthorizedLine, ← or_assoc]
  by_cases hfree : asset.isNative = true ∨ asset.issuerIs strKey accountId = true
  · rw [if_pos hfree]
    exact iff_of_true rfl (Or.inl hfree)
  rw [if_neg hfree]
  simp only [hfree, false_or, bind_eq_ok, okOr_eq_ok, ensure_eq_ok, balanceRow,
    Option.bind_eq_bind, Option.bind_eq_some_iff]
  constructor
  · rintro ⟨rows, hrows, raw, hraw, _, hauthorized, rfl⟩
    exact ⟨raw, ⟨rows, hrows, hraw⟩, hauthorized⟩
  · rintro ⟨raw, ⟨rows, hrows, hraw⟩, hauthorized⟩
    exact ⟨rows, hrows, raw, hraw, true, hauthorized, rfl⟩

theorem accountCanHold_eq_false : accountCanHold strKey account accountId asset = false ↔
    asset.isNative = false ∧ asset.issuerIs strKey accountId = false ∧
      balanceRow strKey account asset = none := by
  rw [accountCanHold, balanceRow, Bool.or_eq_false_iff, Bool.or_eq_false_iff, and_assoc]
  refine and_congr_right fun _ => and_congr_right fun _ => ?_
  cases accountBalances account with
  | none => simp
  | some rows => simp [List.find?_eq_none]

/-- What is bought goes to an authorized line, or to one that may be opened. -/
theorem ensureReceivingSide_eq_ok
    (h : ensureReceivingSide strKey account accountId gateway.getAccount asset
      (!accountCanHold strKey account accountId asset) allowTrustline = .ok ()) :
    if accountCanHold strKey account accountId asset then
      AuthorizedLine strKey account accountId asset
    else MayOpen strKey gateway account accountId asset := by
  unfold ensureReceivingSide at h
  cases hcan : accountCanHold strKey account accountId asset with
  | true =>
    rw [hcan] at h
    exact ensureFullOfferAuthorization_eq_ok.mp h
  | false =>
    rw [hcan, Bool.not_false, if_pos rfl] at h
    simp only [bind_eq_ok, okOr_eq_ok, ensure_eq_ok] at h
    obtain ⟨_, -, issuer, hissuer, found, hfound, required, hrequired, hopen⟩ := h
    obtain ⟨hnative, hnotIssuer, hmissing⟩ := accountCanHold_eq_false.mp hcan
    rw [Bool.not_eq_true] at hopen
    exact ⟨hnative, hnotIssuer, hmissing, issuer, found, hissuer, hfound, hopen ▸ hrequired⟩

/-- A fee that is accepted can be paid, if there is one. -/
theorem feePayable_of_capacity (h : LedgerSnapshot strKey account) (hreserve : 0 ≤ baseReserve.val)
    (hfee : 0 < fee.val) (hok : ensureOfferFeeCapacity strKey account baseReserve fee = .ok ()) :
    FeePayable (ledgerAccount strKey account) baseReserve.val fee.val := by
  obtain ⟨-, hpaid | hfree⟩ := (ensureOfferFeeCapacity_accepts h hreserve hfee.le).mp hok
  · have hminimum : 0 ≤ (ledgerAccount strKey account).minimum baseReserve.val :=
      mul_nonneg h.units_nonneg hreserve
    cases hline : (ledgerAccount strKey account).lines .native with
    | none =>
      rw [LedgerAccount.availableOf_of_none hline] at hpaid
      omega
    | some line =>
      rw [LedgerAccount.availableOf_of_line hline] at hpaid
      exact ⟨line, hline, hpaid⟩
  · exact absurd hfree hfee.ne'

section Prepared

variable {Bytes Digest : Type} {p : Primitives Bytes Digest} {wallets : WalletList}
variable {network : String} {timeoutSeconds : U64} {now : Instant} {request : OfferRequest}
variable {wallet : WalletRecord} {prepared : PreparedOffer} {ledger : LedgerParameters}
variable {side : OfferSide} {offerId : I64}

/-- The operations of the transaction that is prepared are accepted. -/
def PreparedOffer.Taken (strKey : StrKey) (gateway : OfferGateway) (account : Json)
    (reserve : ℤ) (prepared : PreparedOffer) : Prop :=
  ∃ tx, prepared.envelope = .tx tx [] ∧ (∀ operation ∈ tx.operations,
    operation.sourceAccount = none) ∧
    Takes strKey gateway prepared.review.source account reserve tx.fee.val
      (tx.operations.map (·.body))

theorem PreparedOffer.Taken.of_bodies {baseFee : U32} {bodies : List OperationBody}
    {envelope : TransactionEnvelope} {authorization : LedgerAuthorizationSnapshot}
    {review : OfferReview} {reserve : ℤ}
    (henvelope : offerEnvelope p wallets network timeoutSeconds now wallet account baseFee bodies =
      .ok (envelope, authorization)) (hsource : review.source = wallet.address)
    (htakes : Takes p.strKey gateway wallet.address account reserve (baseFee.val * bodies.length)
      bodies) :
    PreparedOffer.Taken p.strKey gateway account reserve ⟨review, wallet, envelope⟩ := by
  obtain ⟨tx, key, rfl, -, -, hoperations, hfee⟩ := offerEnvelope_eq_ok henvelope
  have hmap : tx.operations.map (·.body) = bodies := by
    rw [hoperations, List.map_map]
    exact List.map_id bodies
  refine ⟨tx, rfl, ?_, ?_⟩
  · rw [hoperations]
    intro operation hoperation
    obtain ⟨body, -, rfl⟩ := List.mem_map.mp hoperation
    rfl
  · rw [hmap, hfee, hsource]
    exact htakes

/-- What Horizon answers is the ledger's: the account is sound, its lines promise what its stored
offers do, and there is a fee. -/
structure OfferLedger (strKey : StrKey) (gateway : OfferGateway) (source : String) (account : Json)
    (ledger : LedgerParameters) : Prop where
  snapshot : LedgerSnapshot strKey account
  reserve : 0 ≤ ledger.baseReserveInStroops.val
  fee : 0 < ledger.baseFeeInStroops.val
  offers : ∀ offerId offer selling buying old,
    StoredFor strKey gateway source offerId selling buying offer → StoredLiabilities offer old →
      IncludesOffer strKey source (ledgerAccount strKey account) selling buying old

/-- The ledger enters a new offer. -/
theorem prepareOfferCreate_taken
    {baseText counterText amountText priceText : String} {allowTrustline : Bool}
    (hledger : ∀ account ledger, gateway.getAccount wallet.address = .ok account →
      gateway.getLedgerParameters = .ok ledger →
        OfferLedger p.strKey gateway wallet.address account ledger)
    (h : prepareOfferCreate p gateway wallets network timeoutSeconds now wallet side baseText
      counterText amountText priceText allowTrustline = .ok prepared) :
    ∃ account ledger, gateway.getAccount wallet.address = .ok account ∧
      gateway.getLedgerParameters = .ok ledger ∧
      prepared.Taken p.strKey gateway account ledger.baseReserveInStroops.val := by
  simp only [prepareOfferCreate, bind_eq_ok, okOr_eq_ok, pure_eq_ok, Prod.exists] at h
  obtain ⟨base, -, counter, -, _, -, amount, -, priceStroops, -, price, hprice, account, haccount,
    ledger, hparameters, _, hselling, _, hreceiving, totalFee, htotal, _, hpreflight, trustline,
    htrustline, envelope, authorization, henvelope, details, -, hprepared⟩ := h
  obtain rfl := Except.ok.inj hprepared
  obtain ⟨hsnapshot, hreserve, hbaseFee, -⟩ := hledger account ledger haccount hparameters
  -- the fraction that is offered is the one that is faithful to the price
  obtain ⟨price', hprice', hfaithful⟩ :=
    stellarPrice_faithful priceStroops.val priceStroops.property
  obtain rfl := Except.ok.inj (hprice.symm.trans hprice')
  have hside := ensureReceivingSide_eq_ok hreceiving
  have hauthorized := ensureFullOfferAuthorization_eq_ok.mp hselling
  have hcount := length_receivingTrustline htrustline
  -- the fee is that of the operations that are built
  have hfee := BoundedInt.checkedMul_eq_some_iff.mp htotal
  rw [← hcount] at hfee
  have hpositive : 0 < (feeStroops totalFee).val := by
    rw [val_feeStroops, hfee]
    positivity
  obtain ⟨liabilities, hliabilities, hiff, -⟩ := preflightCreate_iff hsnapshot amount.property
    hfaithful.numerator.1 hfaithful.denominator.1 hreserve hpositive side
    (side.assets base counter).1 (side.assets base counter).2
    (!accountCanHold p.strKey account wallet.address (side.assets base counter).2)
  obtain ⟨hfits, -⟩ := hiff.mp hpreflight
  rw [val_feeStroops, hfee] at hfits
  refine ⟨account, ledger, haccount, hparameters, .of_bodies henvelope rfl ?_⟩
  rw [List.length_append, List.length_singleton]
  cases hcan : accountCanHold p.strKey account wallet.address (side.assets base counter).2 with
  | true =>
    rw [hcan] at hfits hside htrustline
    obtain rfl := receivingTrustline_eq_ok.mp htrustline
    exact .enters hliabilities hauthorized hside hfits
  | false =>
    rw [hcan] at hfits hside htrustline
    obtain ⟨-, rfl⟩ := receivingTrustline_eq_ok.mp htrustline
    exact .opens hliabilities hauthorized hside hfits

/-- It replaces an offer that is updated. -/
theorem prepareOfferUpdate_taken {baseText counterText amountText priceText : String}
    (hledger : ∀ account ledger, gateway.getAccount wallet.address = .ok account →
      gateway.getLedgerParameters = .ok ledger →
        OfferLedger p.strKey gateway wallet.address account ledger)
    (h : prepareOfferUpdate p gateway wallets network timeoutSeconds now wallet offerId baseText
      counterText amountText priceText = .ok prepared) :
    ∃ account ledger, gateway.getAccount wallet.address = .ok account ∧
      gateway.getLedgerParameters = .ok ledger ∧
      prepared.Taken p.strKey gateway account ledger.baseReserveInStroops.val := by
  simp only [prepareOfferUpdate, bind_eq_ok, pure_eq_ok, Prod.exists] at h
  obtain ⟨base, -, counter, -, _, -, amount, -, priceStroops, -, price, hprice, offer, hoffer, _,
    howner, selling, hselling, buying, hbuying, side, hside, account, haccount, ledger,
    hparameters, _, hsellingLine, _, hbuyingLine, oldAmount, holdAmount, oldPrice, holdPrice, _,
    hpreflight, envelope, authorization, henvelope, details, -, hprepared⟩ := h
  obtain rfl := Except.ok.inj hprepared
  obtain ⟨hsnapshot, hreserve, hbaseFee, hoffers⟩ := hledger account ledger haccount hparameters
  obtain ⟨price', hprice', hfaithful⟩ :=
    stellarPrice_faithful priceStroops.val priceStroops.property
  obtain rfl := Except.ok.inj (hprice.symm.trans hprice')
  have hpairs := inferSide_eq_ok hside
  have hstored : StoredFor p.strKey gateway wallet.address offerId (side.assets base counter).1
      (side.assets base counter).2 offer := by
    rw [hpairs]
    exact ⟨hoffer, ensureOfferOwner_eq_ok.mp howner, hselling, hbuying⟩
  -- the stored offer has liabilities of its own, and the lines promise them
  obtain ⟨hn, hd⟩ := horizonPrice_pos holdPrice
  obtain ⟨text, -, hamountText⟩ := Option.bind_eq_some_iff.mp (okOr_eq_ok.mp holdAmount)
  obtain ⟨old, hold, -⟩ : ∃ old, offerLiabilities .sell oldAmount oldPrice = .ok old ∧ _ :=
    offerLiabilities_total (parseStroops_nonneg hamountText) hn hd
  have hstoredOld : StoredLiabilities offer old :=
    ⟨oldAmount, oldPrice, holdAmount, holdPrice, hold⟩
  have hfee : 0 < (feeStroops ledger.baseFeeInStroops).val := by
    rw [val_feeStroops]
    exact hbaseFee
  have hpayable : FeePayable (ledgerAccount p.strKey account) ledger.baseReserveInStroops.val
      (feeStroops ledger.baseFeeInStroops).val := by
    rw [preflightUpdate, bind_eq_ok] at hpreflight
    obtain ⟨_, hcapacity, -⟩ := hpreflight
    exact feePayable_of_capacity hsnapshot hreserve hfee hcapacity
  obtain ⟨new, hnew, hdecides⟩ := preflightUpdate_decides hsnapshot hold amount.property
    hfaithful.numerator.1 hfaithful.denominator.1 hreserve hfee.le
    (hoffers offerId offer _ _ old hstored hstoredOld) hpayable
  have hfits := hdecides.eq_ok_iff.mp hpreflight
  rw [val_feeStroops] at hfits hpayable
  refine ⟨account, ledger, haccount, hparameters, .of_bodies henvelope rfl ?_⟩
  rw [List.length_singleton, Nat.cast_one, mul_one]
  exact .replaces hstored hstoredOld hnew (ensureFullOfferAuthorization_eq_ok.mp hsellingLine)
    (ensureFullOfferAuthorization_eq_ok.mp hbuyingLine) hpayable hfits

/-- It removes an offer that is cancelled. -/
theorem prepareOfferCancel_taken
    (hledger : ∀ account ledger, gateway.getAccount wallet.address = .ok account →
      gateway.getLedgerParameters = .ok ledger →
        OfferLedger p.strKey gateway wallet.address account ledger)
    (h : prepareOfferCancel p gateway wallets network timeoutSeconds now wallet offerId =
      .ok prepared) :
    ∃ account ledger, gateway.getAccount wallet.address = .ok account ∧
      gateway.getLedgerParameters = .ok ledger ∧
      prepared.Taken p.strKey gateway account ledger.baseReserveInStroops.val := by
  simp only [prepareOfferCancel, bind_eq_ok, pure_eq_ok, Prod.exists] at h
  obtain ⟨offer, hoffer, _, howner, selling, hselling, buying, hbuying, price, hprice, account,
    haccount, ledger, hparameters, _, hcapacity, envelope, authorization, henvelope, hprepared⟩ := h
  obtain rfl := Except.ok.inj hprepared
  obtain ⟨hsnapshot, hreserve, hbaseFee, -⟩ := hledger account ledger haccount hparameters
  have hfee : 0 < (feeStroops ledger.baseFeeInStroops).val := by
    rw [val_feeStroops]
    exact hbaseFee
  have hpayable := feePayable_of_capacity hsnapshot hreserve hfee hcapacity
  rw [val_feeStroops] at hpayable
  refine ⟨account, ledger, haccount, hparameters, .of_bodies henvelope rfl ?_⟩
  rw [List.length_singleton, Nat.cast_one, mul_one]
  exact .cancels ⟨hoffer, ensureOfferOwner_eq_ok.mp howner, hselling, hbuying⟩ hprice hpayable

/-- The ledger takes an offer that is prepared against its own state. -/
theorem prepareOffer_taken
    (hledger : ∀ account ledger, gateway.getAccount wallet.address = .ok account →
      gateway.getLedgerParameters = .ok ledger →
        OfferLedger p.strKey gateway wallet.address account ledger)
    (h : prepareOfferWithWallet p gateway wallets network timeoutSeconds now wallet request =
      .ok prepared) :
    ∃ account ledger, gateway.getAccount wallet.address = .ok account ∧
      gateway.getLedgerParameters = .ok ledger ∧
      prepared.Taken p.strKey gateway account ledger.baseReserveInStroops.val := by
  cases request with
  | create => exact prepareOfferCreate_taken hledger h
  | update => exact prepareOfferUpdate_taken hledger h
  | cancel => exact prepareOfferCancel_taken hledger h

theorem getAccount_trusting :
    offerGateway.getAccount trustingWallet.address = .ok trustingAccount :=
  congrArg Except.ok (if_pos rfl)

theorem trustingAccount_native : (ledgerAccount Sep23.strKey trustingAccount).lines .native =
    some ⟨1000000000, 10000000, 0, 9223372036854775807⟩ := by
  decide +kernel

/-- The stored offer sells one unit, which the account promises. -/
theorem storedOffer_reads : storedAsset Sep23.strKey storedOffer "selling" = .ok .native ∧
    storedAmount storedOffer = .ok (.lit 10000000) ∧
    horizonPrice storedOffer = .ok ⟨.lit 1, .lit 2⟩ ∧
    offerLiabilities .sell (.lit 10000000) ⟨.lit 1, .lit 2⟩ =
      .ok ⟨.lit 10000000, .lit 5000000⟩ := by
  refine ⟨?_, ?_, ?_, ?_⟩ <;> decide +kernel

/-- What it buys is issued by the account. -/
theorem storedOffer_issuer {asset : AssetId}
    (h : storedAsset Sep23.strKey storedOffer "buying" = .ok asset) :
    asset.issuerIs Sep23.strKey trustingAddress = true := by
  have hall : (storedAsset Sep23.strKey storedOffer "buying").toOption.all
      (·.issuerIs Sep23.strKey trustingAddress) = true := by decide +kernel
  rw [h] at hall
  exact hall

theorem offerGateway_ledger {account : Json} {ledger : LedgerParameters}
    (haccount : offerGateway.getAccount trustingWallet.address = .ok account)
    (hparameters : offerGateway.getLedgerParameters = .ok ledger) :
    OfferLedger Sep23.strKey offerGateway trustingWallet.address account ledger := by
  obtain rfl := Except.ok.inj (getAccount_trusting.symm.trans haccount)
  obtain rfl := Except.ok.inj hparameters
  refine ⟨trustingAccount_snapshot, by decide, by decide, ?_⟩
  intro offerId offer selling buying old hstored hold
  -- there is one stored offer
  have hoffer : storedOffer = offer := by
    have hstored := hstored.stored
    dsimp only [offerGateway] at hstored
    split_ifs at hstored
    exact Except.ok.inj hstored
  subst hoffer
  obtain ⟨hselling, hamount, hprice, hliabilities⟩ := storedOffer_reads
  obtain ⟨amount, price, hamount', hprice', hold⟩ := hold
  obtain rfl := Except.ok.inj (hamount.symm.trans hamount')
  obtain rfl := Except.ok.inj (hprice.symm.trans hprice')
  obtain rfl := Except.ok.inj (hliabilities.symm.trans hold)
  obtain rfl := Except.ok.inj (hselling.symm.trans hstored.selling)
  constructor
  · intro _
    exact ⟨_, trustingAccount_native, by decide⟩
  · intro hissuer
    rw [show trustingWallet.address = trustingAddress from rfl,
      storedOffer_issuer hstored.buying] at hissuer
    cases hissuer

/-- A request of this account is prepared, and the ledger takes it. -/
def IsTaken (request : OfferRequest) : Prop := ∃ prepared, trustingOffer request = .ok prepared ∧
  prepared.Taken Sep23.strKey offerGateway trustingAccount 5000000

theorem prepareOffer_taken_stored :
    IsTaken sellForUsdc ∧ IsTaken sellMore ∧ IsTaken cancelStored := by
  have htaken (request : OfferRequest) (hok : (trustingOffer request).isOk = true) :
      IsTaken request := by
    cases hprepared : trustingOffer request with
    | error error =>
      rw [hprepared] at hok
      cases hok
    | ok prepared =>
      obtain ⟨account, ledger, haccount, hparameters, htaken⟩ :=
        prepareOffer_taken (fun _ _ => offerGateway_ledger) hprepared
      obtain rfl := Except.ok.inj (getAccount_trusting.symm.trans haccount)
      obtain rfl := Except.ok.inj hparameters
      exact ⟨prepared, hprepared, htaken⟩
  obtain ⟨hcreate, hupdate, hcancel⟩ := trustingOffer_isOk
  exact ⟨htaken _ hcreate, htaken _ hupdate, htaken _ hcancel⟩

end Prepared

end Fresnica
