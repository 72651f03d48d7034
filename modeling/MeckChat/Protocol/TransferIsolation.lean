import MeckChat.Protocol.TransferConsent
import MeckChat.Protocol.TransferIntegrity

/-!
What a peer can do to the transfers of others.

* `offerOf?` is the offer that a payload carries, and `handleInboundFileOffer_eq`
  that the handler registers it.
* `offer_keeps_iff`: an inbound offer leaves every session in the map alone
  exactly when its id is not in use; `offer_replaces_outgoing` is an offer that
  takes the place of an outgoing transfer.
-/

namespace MeckChat.Protocol

namespace FileTransferController

open Qt QJson

variable (json : JsonCodec) (sha : Sha256)

/-! ### Offers -/

/-- The offer in a payload, if there is one that can be registered. -/
def offerOf? (payload : Bytes) : Option FileOffer :=
  match json.fromJson payload with
  | some (.object o) => FileOffer.fromJson o
  | _ => none

variable {json sha}
variable {c : FileTransferController} {es : List (Event × Io)} {log : List Effect}

lemma handleInboundFileOffer_eq (payload : Bytes) :
    c.handleInboundFileOffer json payload =
      match offerOf? json payload with
      | some offer => c.registerOffer offer
      | none => (c, []) := by
  rw [handleInboundFileOffer, offerOf?]
  cases json.fromJson payload with
  | none => rfl
  | some doc =>
      cases doc with
      | array => rfl
      | object o => rfl

/-- The numbering of session objects in every state reached. -/
lemma numbered_of_run {m_socket : Bool} {files : FileSystem} {guard}
    (hrun : Run (machine json sha) guard (init m_socket files) es log c) : Numbered c log :=
  hrun.invariant_log (I := fun _ log c => Numbered c log) (.init m_socket files)
    fun _ _ _ e h _ => h.step e.1 e.2

/-- **Offers and the sessions in the map.** An inbound offer leaves all of them
unchanged exactly when its id is new. -/
theorem offer_keeps_iff {m_socket : Bool} {files : FileSystem}
    (hrun : Run (machine json sha) (fun _ _ => True) (init m_socket files) es log c)
    (payload : Bytes) :
    (∀ tid s, c.m_sessions.value? tid = some s →
        (c.handleInboundFileOffer json payload).1.m_sessions.value? tid = some s) ↔
      ∀ offer, offerOf? json payload = some offer →
        c.m_sessions.value? offer.transferId = none := by
  have hnumbered := numbered_of_run hrun
  rw [handleInboundFileOffer_eq]
  cases hoffer : offerOf? json payload with
  | none => simp
  | some offer =>
      simp only [Option.some.injEq, forall_eq']
      constructor
      · intro hkeeps
        by_contra hused
        obtain ⟨s, hs⟩ := Option.ne_none_iff_exists'.mp hused
        -- the new session is another object
        have hnew := hkeeps _ s hs
        rw [registerOffer, QMap.value?_insert_self, Option.some.injEq] at hnew
        have hlt := hnumbered.lt hs
        rw [← hnew, incomingSession] at hlt
        exact absurd hlt (Nat.lt_irrefl _)
      · intro hfree tid s hs
        have hne : offer.transferId ≠ tid := by
          rintro rfl
          rw [hfree] at hs
          cases hs
        rw [registerOffer, QMap.value?_insert_of_ne _ hne]
        exact hs

/-- The offer of `emptyOffer` under another id. -/
def offerAgain (transferId : String) : Bytes :=
  compact.toJson
    (FileOffer.toJson { emptyOffer (Sha256.sample.hex []) with transferId := transferId })

lemma offerOf?_offerAgain {transferId : String} (h : transferId ≠ "") :
    offerOf? compact (offerAgain transferId) =
      some { emptyOffer (Sha256.sample.hex []) with transferId := transferId } := by
  have hname : sanitizeFileName (sanitizeFileName "b.txt") = "b.txt" := by decide +kernel
  have hread := FileOffer.fromJson_toJson
    (m := { emptyOffer (Sha256.sample.hex []) with transferId := transferId }) h le_rfl
    (Sha256.sample.hex_ne_empty _) (by simp [emptyOffer]) (by simp [emptyOffer])
  rw [offerOf?, offerAgain, JsonCodec.fromJson_toJson]
  simpa [emptyOffer, hname] using hread

/-- The controller that offered a file of one letter. -/
def afterOffer : FileTransferController :=
  ((machine compact .sample).exec (init true oneLetterFile) (sendLetter.take 1)).2

lemma run_afterOffer : Run (machine compact .sample) (fun _ _ => True) (init true oneLetterFile)
    (sendLetter.take 1)
    ((machine compact .sample).exec (init true oneLetterFile) (sendLetter.take 1)).1 afterOffer :=
  Run.exec ((machine compact .sample).allows_of_forall (fun _ _ => trivial) _ _)

theorem offer_keeps_iff_new_id :
    afterOffer.m_sessions.value? "ft_fedcba9876543" = none ∧
      ∀ tid s, afterOffer.m_sessions.value? tid = some s →
        (afterOffer.handleInboundFileOffer compact
          (offerAgain "ft_fedcba9876543")).1.m_sessions.value? tid = some s := by
  have hnew : afterOffer.m_sessions.value? "ft_fedcba9876543" = none := by decide +kernel
  refine ⟨hnew, (offer_keeps_iff run_afterOffer _).mpr ?_⟩
  rw [offerOf?_offerAgain (by decide)]
  rintro offer ⟨⟩
  exact hnew

/-- **A re-used id.** An inbound offer takes the place of an outgoing transfer
that has its id. -/
theorem offer_replaces_outgoing :
    ¬ ∀ es log c, Run (machine compact .sample) (fun _ _ => True) (init true oneLetterFile) es log c →
      ∀ payload tid s, c.m_sessions.value? tid = some s →
        (c.handleInboundFileOffer compact payload).1.m_sessions.value? tid = some s := by
  intro h
  obtain ⟨s, hs, hout⟩ : ∃ s, afterOffer.m_sessions.value? "ft_0123456789ab4" = some s ∧
      s.direction = .Outgoing := by
    have hdir : (afterOffer.m_sessions.value? "ft_0123456789ab4").map (·.direction) =
        some .Outgoing := by decide +kernel
    exact Option.map_eq_some_iff.mp hdir
  have hkept := h _ _ _ run_afterOffer (offerAgain "ft_0123456789ab4") _ s hs
  rw [handleInboundFileOffer_eq, offerOf?_offerAgain (by decide)] at hkept
  dsimp only at hkept
  rw [registerOffer, QMap.value?_insert_self, Option.some.injEq] at hkept
  rw [← hkept] at hout
  cases hout

end FileTransferController

end MeckChat.Protocol
