import MeckChat.Protocol.TransferPhase

/-!
Networks all of whose transfers are in a phase.

* `Orderly` says so, that the transfers in progress keep out of each other's
  files, and that whatever was there before is as it was. It can leave out the
  transfer that is being worked on.
* `Orderly.pop`, `Orderly.fire` and `Orderly.reacts` keep the order of the
  others, and `Orderly.close` puts the last one in order again.
* `Orderly.renew` composes these for a reaction, and `Orderly.tame` is its case
  of a handler that is tame.
-/

namespace MeckChat.Protocol

open Qt QJson FileTransferController

variable (json : JsonCodec) (sha : Sha256)

/-! ### Networks in order -/

/-- The transfers with an id in `P` are in order: each is in a phase, what is
registered, in flight or scheduled belongs to one of them, and those in progress
keep out of the others' files. Whatever `net₀` had is as it was. -/
structure Orderly (net₀ : Net) (P : String → Prop) (log : List Fact) (net : Net) : Prop where
  socket (Y : Side) : (net.ctrl Y).m_socket = true
  foreign {Y : Side} {a s} : (net₀.ctrl Y).m_sessions.value? a = some s →
    (net.ctrl Y).m_sessions.value? a = some s
  own {X a p d} : .sent X a p d ∈ log →
    IsChunkId a ∧ ∀ Y, (net₀.ctrl Y).m_sessions.value? a = none
  unique {X X' a p p' d d'} : .sent X a p d ∈ log → .sent X' a p' d' ∈ log →
    X = X' ∧ p = p' ∧ d = d'
  session {Y : Side} {a s} : P a → (net.ctrl Y).m_sessions.value? a = some s →
    (net₀.ctrl Y).m_sessions.value? a = some s ∨ ∃ X p d, .sent X a p d ∈ log
  frame {Y : Side} {f} : f ∈ net.chan Y →
    ∃ a, (readFrame json f).id? = some a ∧ (P a → ∃ X p d, .sent X a p d ∈ log)
  timer {Y : Side} {a} : a ∈ (net.ctrl Y).timers → P a → ∃ p d, .sent Y a p d ∈ log
  phase {X : Side} {a p d} : P a → .sent X a p d ∈ log →
    Phase sha a p d (net.ctrl X).files (net.ctrl X.other).files (net.view json X a)
  apart {Y : Side} {a b s s'} : P a → P b → a ≠ b →
    (net₀.ctrl Y).m_sessions.value? a = none → (net₀.ctrl Y).m_sessions.value? b = none →
    (net.ctrl Y).m_sessions.value? a = some s → (net.ctrl Y).m_sessions.value? b = some s' →
    s.Live → s.reserved.Disjoint s'.reserved
  accepted {Y : Side} {a} : .accepted Y a ∈ log → ∃ p d, .sent Y.other a p d ∈ log ∧
    (P a → ∃ r, (net.ctrl Y).m_sessions.value? a = some r ∧ r.state ≠ .Offering)
  started {Y : Side} {a p d r} : P a → .sent Y.other a p d ∈ log →
    (net.ctrl Y).m_sessions.value? a = some r → r.state ≠ .Offering → .accepted Y a ∈ log

namespace Orderly

variable {json sha}
variable {net₀ net net' : Net} {log : List Fact} {Z X : Side} {tid path : String}
  {content : Bytes} {t t' : Turn} {f : P2PFrame} {rest : List P2PFrame}

/-- In order but for one transfer. -/
lemma but (h : Orderly json sha net₀ (fun _ => True) log net) (tid : String) :
    Orderly json sha net₀ (· ≠ tid) log net where
  socket := h.socket
  foreign := h.foreign
  own := h.own
  unique := h.unique
  session _ hs := h.session trivial hs
  frame hf := by
    obtain ⟨a, ha, hsent⟩ := h.frame hf
    exact ⟨a, ha, fun _ => hsent trivial⟩
  timer ha _ := h.timer ha trivial
  phase _ hsent := h.phase trivial hsent
  apart _ _ hne ha hb hs hs' := h.apart trivial trivial hne ha hb hs hs'
  accepted ha := by
    obtain ⟨p, d, hsent, hr⟩ := h.accepted ha
    exact ⟨p, d, hsent, fun _ => hr trivial⟩
  started _ hsent hs hstate := h.started trivial hsent hs hstate

lemma pop (h : Orderly json sha net₀ (· ≠ tid) log net) (hchan : net.chan Z = f :: rest)
    (hf : (readFrame json f).id? = some tid) :
    Orderly json sha net₀ (· ≠ tid) log (net.pop Z rest) where
  socket := h.socket
  foreign := h.foreign
  own := h.own
  unique := h.unique
  session := h.session
  frame {Y g} hg := by
    apply h.frame (Y := Y)
    by_cases hY : Y = Z
    · subst hY
      simp only [Net.pop, Function.update_self] at hg
      rw [hchan]
      exact List.mem_cons_of_mem _ hg
    · simp only [Net.pop, Function.update_of_ne hY] at hg
      exact hg
  timer := h.timer
  phase ha hsent := by
    rw [view_pop_of_ne hchan hf _ ha]
    exact h.phase ha hsent
  apart := h.apart
  accepted := h.accepted
  started := h.started

lemma fire (h : Orderly json sha net₀ (· ≠ tid) log net) :
    Orderly json sha net₀ (· ≠ tid) log (net.fire Z tid) := by
  have hbase := base_fire net Z tid
  constructor
  · intro Y
    rw [hbase.socket]
    exact h.socket Y
  · intro Y a s hs
    rw [hbase.sessions]
    exact h.foreign hs
  · exact h.own
  · exact h.unique
  · intro Y a s ha hs
    rw [hbase.sessions] at hs
    exact h.session ha hs
  · exact h.frame
  · intro Y a ha hP
    exact h.timer (hbase.timers ha) hP
  · intro X a p d ha hsent
    rw [view_fire_of_ne X ha, hbase.files, hbase.files]
    exact h.phase ha hsent
  · intro Y a b s s' ha hb hne ha₀ hb₀ hs hs'
    rw [hbase.sessions] at hs hs'
    exact h.apart ha hb hne ha₀ hb₀ hs hs'
  · intro Y a ha
    rw [hbase.sessions]
    exact h.accepted ha
  · intro Y a p d r ha hsent hs hstate
    rw [hbase.sessions] at hs
    exact h.started ha hsent hs hstate

/-- A reaction for one transfer keeps the others in order, if it leaves their
files alone. -/
lemma reacts (h : Orderly json sha net₀ (· ≠ tid) log net) (hr : Reacts Z tid t net net')
    (hown : ∀ Y, (net₀.ctrl Y).m_sessions.value? tid = none)
    (hframes : ∀ f ∈ framesSent t.deeds, (readFrame json f).id? = some tid)
    (htimers : ∀ a ∈ t.timers, a = tid)
    (hkeeps : ∀ b s', b ≠ tid → (net₀.ctrl Z).m_sessions.value? b = none →
      (net.ctrl Z).m_sessions.value? b = some s' →
        ∀ q ∈ s'.reserved, FileSystem.Keeps q (net.ctrl Z).files t.files) :
    Orderly json sha net₀ (· ≠ tid) log net' where
  socket Y := (hr.socket Y).trans (h.socket Y)
  foreign {Y a s} hs := by
    have ha : a ≠ tid := by
      rintro rfl
      rw [hown Y] at hs
      cases hs
    rw [hr.sessions (.inr ha)]
    exact h.foreign hs
  own := h.own
  unique := h.unique
  session {Y a s} ha hs := by
    rw [hr.sessions (.inr ha)] at hs
    exact h.session ha hs
  frame {Y f} hf := by
    rcases Z.eq_or_eq_other Y with rfl | rfl
    · rw [hr.chan] at hf
      exact h.frame hf
    · rw [hr.chan_other] at hf
      rcases List.mem_append.mp hf with hf | hf
      · exact h.frame hf
      · exact ⟨tid, hframes f hf, fun hne => absurd rfl hne⟩
  timer {Y a} ha hne := by
    rcases Z.eq_or_eq_other Y with rfl | rfl
    · rw [hr.timers] at ha
      rcases List.mem_append.mp ha with ha | ha
      · exact h.timer ha hne
      · exact absurd (htimers a ha) hne
    · rw [hr.timers_other] at ha
      exact h.timer ha hne
  phase {X a p d} ha hsent := by
    have hphase := h.phase ha hsent
    have hnone := (h.own hsent).2
    rw [hr.view_of_ne hframes htimers X ha]
    -- the files of side `Z` are the only ones that change
    have hkeep : ∀ Y s, (net.ctrl Y).m_sessions.value? a = some s → ∀ q ∈ s.reserved,
        FileSystem.Keeps q (net.ctrl Y).files (net'.ctrl Y).files := by
      intro Y s hs q hq
      rcases Z.eq_or_eq_other Y with rfl | rfl
      · rw [hr.files]
        exact hkeeps a s ha (hnone _) hs q hq
      · rw [hr.files_other]
    exact hphase.frame (hkeep X) (hkeep X.other)
  apart {Y a b s s'} ha hb hne ha₀ hb₀ hs hs' := by
    rw [hr.sessions (.inr ha)] at hs
    rw [hr.sessions (.inr hb)] at hs'
    exact h.apart ha hb hne ha₀ hb₀ hs hs'
  accepted {Y a} ha := by
    obtain ⟨p, d, hsent, hacc⟩ := h.accepted ha
    refine ⟨p, d, hsent, fun hne => ?_⟩
    rw [hr.sessions (.inr hne)]
    exact hacc hne
  started {Y a p d r} ha hsent hs hstate := by
    rw [hr.sessions (.inr ha)] at hs
    exact h.started ha hsent hs hstate

/-- The last transfer put in order again. -/
lemma close (h : Orderly json sha net₀ (· ≠ tid) log net) (hsent : .sent X tid path content ∈ log)
    (hphase : Phase sha tid path content (net.ctrl X).files (net.ctrl X.other).files
      (net.view json X tid))
    (hstray : tid ∉ (net.ctrl X.other).timers)
    (hapart : ∀ Y b s s', b ≠ tid → (net₀.ctrl Y).m_sessions.value? b = none →
      (net.ctrl Y).m_sessions.value? tid = some s → (net.ctrl Y).m_sessions.value? b = some s' →
        s.Live ∨ s'.Live → s.reserved.Disjoint s'.reserved)
    (hacc : ∀ Y, .accepted Y tid ∈ log →
      ∃ r, (net.ctrl Y).m_sessions.value? tid = some r ∧ r.state ≠ .Offering)
    (hstarted : ∀ Y r, Y.other = X → (net.ctrl Y).m_sessions.value? tid = some r →
      r.state ≠ .Offering → .accepted Y tid ∈ log) :
    Orderly json sha net₀ (fun _ => True) log net where
  socket := h.socket
  foreign := h.foreign
  own := h.own
  unique := h.unique
  session {Y a s} _ hs := by
    by_cases ha : a = tid
    · subst ha
      exact .inr ⟨X, path, content, hsent⟩
    · exact h.session ha hs
  frame {Y f} hf := by
    obtain ⟨a, hread, ha⟩ := h.frame hf
    refine ⟨a, hread, fun _ => ?_⟩
    by_cases hne : a = tid
    · subst hne
      exact ⟨X, path, content, hsent⟩
    · exact ha hne
  timer {Y a} ha _ := by
    by_cases hne : a = tid
    · subst hne
      rcases X.eq_or_eq_other Y with rfl | rfl
      · exact ⟨path, content, hsent⟩
      · exact absurd ha hstray
    · exact h.timer ha hne
  phase {X' a p d} _ hsent' := by
    by_cases hne : a = tid
    · subst hne
      obtain ⟨rfl, rfl, rfl⟩ := h.unique hsent hsent'
      exact hphase
    · exact h.phase hne hsent'
  apart {Y a b s s'} _ _ hne ha₀ hb₀ hs hs' hlive := by
    by_cases ha : a = tid
    · subst ha
      exact hapart Y b s s' hne.symm hb₀ hs hs' (.inl hlive)
    · by_cases hb : b = tid
      · subst hb
        exact (hapart Y a s' s ha ha₀ hs' hs (.inr hlive)).symm
      · exact h.apart ha hb hne ha₀ hb₀ hs hs' hlive
  accepted {Y a} ha := by
    obtain ⟨p, d, hsent', hr⟩ := h.accepted ha
    refine ⟨p, d, hsent', fun _ => ?_⟩
    by_cases hne : a = tid
    · subst hne
      exact hacc Y ha
    · exact hr hne
  started {Y a p d r} _ hsent' hs hstate := by
    by_cases hne : a = tid
    · subst hne
      exact hstarted Y r (h.unique hsent' hsent).1 hs hstate
    · exact h.started hne hsent' hs hstate

/-- The receiver of a transfer has no timer for it. -/
lemma stray (h : Orderly json sha net₀ (fun _ => True) log net)
    (hsent : .sent X tid path content ∈ log) : tid ∉ (net.ctrl X.other).timers :=
  List.count_eq_zero.mp (h.phase trivial hsent).stray

/-- A reaction for one transfer keeps the whole network in order. Its side reacts
in `base`, which is `net` without the frame or the timer that made it react; the
log may have grown. -/
lemma renew {log' : List Fact} (h : Orderly json sha net₀ (fun _ => True) log net) {base : Net}
    (hbase : Orderly json sha net₀ (· ≠ tid) log' base) (hb : base.Base net)
    (hsent : .sent X tid path content ∈ log') (hr : Reacts Z tid t' base net')
    (hframes : ∀ f ∈ framesSent t'.deeds, (readFrame json f).id? = some tid)
    (htimers : ∀ a ∈ t'.timers, a = tid)
    (hkeeps : ∀ b s', b ≠ tid → (net₀.ctrl Z).m_sessions.value? b = none →
      (net.ctrl Z).m_sessions.value? b = some s' →
        ∀ q ∈ s'.reserved, FileSystem.Keeps q (net.ctrl Z).files t'.files)
    (hdisjoint : ∀ b s', b ≠ tid → (net₀.ctrl Z).m_sessions.value? b = none →
      (net.ctrl Z).m_sessions.value? b = some s' → t'.session.Live ∨ s'.Live →
        t'.session.reserved.Disjoint s'.reserved)
    (hstray : tid ∉ (net.ctrl X.other).timers ∧ (Z = X ∨ t'.timers = []))
    (hphase : Phase sha tid path content (net'.ctrl X).files (net'.ctrl X.other).files
      (net'.view json X tid))
    (hacc : .accepted Z tid ∈ log' → t'.session.state ≠ .Offering)
    (hacc' : .accepted Z.other tid ∈ log' → .accepted Z.other tid ∈ log)
    (hstarted : ∀ Y r, Y.other = X → (net'.ctrl Y).m_sessions.value? tid = some r →
      r.state ≠ .Offering → .accepted Y tid ∈ log') :
    Orderly json sha net₀ (fun _ => True) log' net' := by
  have hown := (hbase.own hsent).2
  have hafter : Orderly json sha net₀ (· ≠ tid) log' net' := by
    apply hbase.reacts hr hown hframes htimers
    intro b s' hne hb₀ hs'
    rw [hb.sessions] at hs'
    rw [hb.files]
    exact hkeeps b s' hne hb₀ hs'
  refine hafter.close hsent hphase ?_ ?_ ?_ hstarted
  · intro hmem
    rcases Z.eq_or_eq_other X.other with heq | heq
    · rw [heq, hr.timers] at hmem
      rcases hstray.2 with hZ | hnil
      · rw [hZ] at heq
        exact X.other_ne heq
      · rw [hnil, List.append_nil, ← heq] at hmem
        exact hstray.1 (hb.timers hmem)
    · rw [heq, hr.timers_other, ← heq] at hmem
      exact hstray.1 (hb.timers hmem)
  · intro Y b s₁ s' hne hb₀ hs₁ hs' hlive
    rw [hr.sessions (.inr hne), hb.sessions] at hs'
    rcases Z.eq_or_eq_other Y with rfl | rfl
    · rw [hr.session, Option.some.injEq] at hs₁
      subst hs₁
      exact hdisjoint b s' hne hb₀ hs' hlive
    · rw [hr.sessions (.inl Z.other_ne), hb.sessions] at hs₁
      rcases hlive with hlive | hlive
      · exact h.apart trivial trivial hne.symm (hown _) hb₀ hs₁ hs' hlive
      · exact (h.apart trivial trivial hne hb₀ (hown _) hs' hs₁ hlive).symm
  · intro Y hY
    rcases Z.eq_or_eq_other Y with rfl | rfl
    · exact ⟨t'.session, hr.session, hacc hY⟩
    · obtain ⟨p, d, -, hrec⟩ := h.accepted (hacc' hY)
      obtain ⟨r, hs, hstate⟩ := hrec trivial
      refine ⟨r, ?_, hstate⟩
      rw [hr.sessions (.inl Z.other_ne), hb.sessions]
      exact hs

/-- A tame request keeps the network in order. -/
lemma tame (h : Orderly json sha net₀ (fun _ => True) log net) {base : Net}
    (hbase : Orderly json sha net₀ (· ≠ tid) log base) (hb : base.Base net)
    (hsent : .sent X tid path content ∈ log)
    {s : FileTransferSession} (hs : (net.ctrl Z).m_sessions.value? tid = some s)
    (ht : t = { session := s, files := (net.ctrl Z).files }) (htame : Tame json tid t t')
    (hr : Reacts Z tid t' base net') (hstray : Z = X ∨ t'.timers = [])
    (hphase : Phase sha tid path content (net'.ctrl X).files (net'.ctrl X.other).files
      (net'.view json X tid)) :
    Orderly json sha net₀ (fun _ => True) log net' := by
  subst ht
  have hown := (h.own hsent).2
  have hdisjoint : ∀ b s', b ≠ tid → (net₀.ctrl Z).m_sessions.value? b = none →
      (net.ctrl Z).m_sessions.value? b = some s' → s.Live ∨ s'.Live →
        s.reserved.Disjoint s'.reserved := by
    intro b s' hne hb₀ hs' hlive
    rcases hlive with hlive | hlive
    · exact h.apart trivial trivial hne.symm (hown Z) hb₀ hs hs' hlive
    · exact (h.apart trivial trivial hne hb₀ (hown Z) hs' hs hlive).symm
  refine h.renew hbase hb hsent hr htame.frames htame.timers ?_ ?_
    ⟨h.stray hsent, hstray⟩ hphase ?_ id ?_
  · intro b s' hne hb₀ hs' q hq
    rcases htame.files with hsame | ⟨hlive, hkeeps⟩
    · rw [hsame]
    · exact hkeeps q fun hmem => hdisjoint b s' hne hb₀ hs' (.inl hlive) hmem hq
  · intro b s' hne hb₀ hs' hlive q hq hq'
    exact hdisjoint b s' hne hb₀ hs' (hlive.imp htame.live id) (htame.reserved hq) hq'
  · intro hacc hoffer
    obtain ⟨p, d, -, hrec⟩ := h.accepted hacc
    obtain ⟨r, hr', hstate⟩ := hrec trivial
    rw [hs, Option.some.injEq] at hr'
    subst hr'
    exact hstate (htame.offered hoffer)
  · rintro Y r rfl hr' hstate
    rcases Z.eq_or_eq_other Y with rfl | rfl
    · rw [hr.session, Option.some.injEq] at hr'
      subst hr'
      have hin : s.direction = .Incoming := by
        apply ((h.phase trivial hsent).receiver _).direction
        rw [Net.view, Side.other_other]
        exact hs
      exact h.started trivial hsent hs fun hoffer => hstate (htame.started hoffer hin)
    · rw [hr.sessions (.inl Z.other_ne), hb.sessions] at hr'
      exact h.started trivial hsent hr' hstate

end Orderly

end MeckChat.Protocol
