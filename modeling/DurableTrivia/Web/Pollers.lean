import DurableTrivia.Shared.Identity
import DurableTrivia.Web.RoundLoop

/-!
# Pollers — counting the badges on the Task Queue

`active_badge_workers` of `web/src/main.rs` sizes a round: it lists the
callsigns of the badge Workers Temporal has seen polling within the last
minute. The pollers Temporal returns and the clock are its inputs. The
names go through a set, so two badges of one callsign are listed once.
-/

namespace DurableTrivia.Web

open DurableTrivia.Shared

/-- One poller of the Task Queue's description, with the seconds of its
`last_access_time`. -/
structure Poller where
  identity : String
  lastAccessSeconds : Option Int
  deriving DecidableEq, Repr

/-- `ACTIVE_BADGE_POLLER_MAX_AGE` in seconds. -/
def activeBadgePollerMaxAge : Int := 60

/-- `str::strip_prefix`. -/
def stripPrefix (text start : String) : Option String :=
  if startsWith text start then some (String.ofList (text.toList.drop start.toList.length))
  else none

/-- Whether a badge polled recently enough to be counted. -/
def Poller.active (nowSeconds : Int) (poller : Poller) : Bool :=
  isBadgeWorkerIdentity poller.identity
    && poller.lastAccessSeconds.any fun seconds =>
      decide (seconds ≥ nowSeconds - activeBadgePollerMaxAge)

/-- The name a poller is listed under. -/
def Poller.callsign (poller : Poller) : String :=
  (stripPrefix poller.identity "badge/").getD poller.identity

/-- Callsigns of the badge Activity Workers Temporal currently lists as
polling. -/
def activeBadgeWorkers (nowSeconds : Int) (pollers : List Poller) : List String :=
  (((pollers.filter (·.active nowSeconds)).map (·.callsign)).dedup).insertionSort (· ≤ ·)

/-- The identity a badge's Worker polls under. -/
def badgeWorkerIdentity (mac : Mac) : String :=
  badgeWorkerPrefix ++ (identityFromMac mac).callsign

theorem isBadgeWorkerIdentity_badge (mac : Mac) :
    isBadgeWorkerIdentity (badgeWorkerIdentity mac) = true := by
  exact isBadgeWorkerIdentity_worker _

theorem stripPrefix_append (start rest : String) :
    stripPrefix (start ++ rest) start = some rest := by
  simp [stripPrefix, startsWith_append]

/-- What the firmware registers, the controller reads back. -/
theorem callsign_of_identity {poller : Poller} {mac : Mac}
    (h : poller.identity = badgeWorkerIdentity mac) :
    poller.callsign = (identityFromMac mac).callsign := by
  have hstrip := stripPrefix_append "badge/" (identityFromMac mac).callsign
  unfold Poller.callsign
  rw [h, badgeWorkerIdentity, show badgeWorkerPrefix = "badge/" from rfl, hstrip]
  rfl

/-- The Task Queue as the badges leave it: every badge polled within the
last minute, and whoever else polls does not look like a badge. -/
structure Polling (nowSeconds : Int) (macs : List Mac) (pollers : List Poller) : Prop where
  recent : ∀ mac ∈ macs, ∃ poller ∈ pollers, ∃ seconds,
    poller.identity = badgeWorkerIdentity mac ∧ poller.lastAccessSeconds = some seconds
      ∧ nowSeconds - activeBadgePollerMaxAge ≤ seconds
  others : ∀ poller ∈ pollers, isBadgeWorkerIdentity poller.identity = true →
    ∃ mac ∈ macs, poller.identity = badgeWorkerIdentity mac

/-- The listed names are the callsigns of the badges, as a set. -/
theorem mem_activeBadgeWorkers {nowSeconds : Int} {macs : List Mac} {pollers : List Poller}
    (h : Polling nowSeconds macs pollers) (name : String) :
    name ∈ activeBadgeWorkers nowSeconds pollers
      ↔ name ∈ macs.map fun mac => (identityFromMac mac).callsign := by
  rw [activeBadgeWorkers, List.mem_insertionSort, List.mem_dedup, List.mem_map, List.mem_map]
  constructor
  · rintro ⟨poller, hpoller, rfl⟩
    obtain ⟨hmem, hactive⟩ := List.mem_filter.mp hpoller
    have hbadge : isBadgeWorkerIdentity poller.identity = true := by
      unfold Poller.active at hactive
      exact (Bool.and_eq_true_iff.mp hactive).1
    obtain ⟨mac, hmac, hid⟩ := h.others poller hmem hbadge
    exact ⟨mac, hmac, (callsign_of_identity hid).symm⟩
  · rintro ⟨mac, hmac, rfl⟩
    obtain ⟨poller, hmem, seconds, hid, hseconds, hage⟩ := h.recent mac hmac
    refine ⟨poller, List.mem_filter.mpr ⟨hmem, ?_⟩, callsign_of_identity hid⟩
    unfold Poller.active
    rw [hid, isBadgeWorkerIdentity_badge, hseconds]
    simpa using hage

theorem nodup_activeBadgeWorkers (nowSeconds : Int) (pollers : List Poller) :
    (activeBadgeWorkers nowSeconds pollers).Nodup := by
  unfold activeBadgeWorkers
  exact (List.perm_insertionSort _ _).nodup_iff.mpr (List.nodup_dedup _)

/-- The list is as long as there are different callsigns. -/
theorem length_activeBadgeWorkers {nowSeconds : Int} {macs : List Mac} {pollers : List Poller}
    (h : Polling nowSeconds macs pollers) :
    (activeBadgeWorkers nowSeconds pollers).length
      = (macs.map fun mac => (identityFromMac mac).callsign).dedup.length := by
  apply List.Perm.length_eq
  rw [List.perm_ext_iff_of_nodup (nodup_activeBadgeWorkers _ _) (List.nodup_dedup _)]
  intro name
  rw [mem_activeBadgeWorkers h, List.mem_dedup]

theorem length_dedup_eq_iff {α : Type*} [DecidableEq α] {xs : List α} :
    xs.dedup.length = xs.length ↔ xs.Nodup := by
  constructor
  · intro h
    rw [← (List.dedup_sublist xs).eq_of_length h]
    exact List.nodup_dedup xs
  · intro h
    rw [h.dedup]

/-- The Workflow's target when nobody overrides it, for a round that
`start_game` sizes from the listed Workers. -/
def targetFor (nowSeconds : Int) (pollers : List Poller) : Nat :=
  activityTarget { detectedBadgeCount := (activeBadgeWorkers nowSeconds pollers).length } none true

/-- **The round is sized from every badge exactly when no two badges
share the last two bytes of their MACs.** -/
theorem activeBadgeWorkers_counts_badges_iff {nowSeconds : Int} {macs : List Mac}
    {pollers : List Poller} (h : Polling nowSeconds macs pollers) :
    ((activeBadgeWorkers nowSeconds pollers).length = macs.length
        ∧ targetFor nowSeconds pollers = macs.length)
      ↔ macs.Pairwise fun a b => ¬ SameTail a b := by
  have htarget : targetFor nowSeconds pollers = (activeBadgeWorkers nowSeconds pollers).length :=
    rfl
  have hnames : (macs.map fun mac => (identityFromMac mac).callsign).Nodup
      ↔ macs.Pairwise fun a b => ¬ SameTail a b := by
    rw [List.nodup_iff_pairwise_ne, List.pairwise_map]
    exact List.Pairwise.iff fun a b => not_congr callsign_eq_iff
  rw [htarget, and_self, length_activeBadgeWorkers h, ← hnames, ← length_dedup_eq_iff,
    List.length_map]

/-- A queue every badge of `macs` polled this very second, next to a
Worker that is no badge. -/
def queueOf (nowSeconds : Int) (macs : List Mac) : List Poller :=
  ⟨"63305@controller.local", some nowSeconds⟩
    :: macs.map fun mac => ⟨badgeWorkerIdentity mac, some nowSeconds⟩

theorem polling_queueOf (nowSeconds : Int) (macs : List Mac) :
    Polling nowSeconds macs (queueOf nowSeconds macs) := by
  constructor
  · intro mac hmac
    refine ⟨⟨badgeWorkerIdentity mac, some nowSeconds⟩, ?_, nowSeconds, rfl, rfl, ?_⟩
    · exact List.mem_cons_of_mem _ (List.mem_map_of_mem hmac)
    · unfold activeBadgePollerMaxAge
      omega
  · intro poller hpoller hbadge
    rcases List.mem_cons.mp hpoller with rfl | hpoller
    · have hother : isBadgeWorkerIdentity "63305@controller.local" = false := by decide
      rw [hother] at hbadge
      cases hbadge
    · obtain ⟨mac, hmac, rfl⟩ := List.mem_map.mp hpoller
      exact ⟨mac, hmac, rfl⟩

/-- Two badges whose MACs differ in the fifth byte. -/
def strangers : List Mac :=
  [Mac.ofBytes 0xe8 0x3d 0xc1 0xf9 0x4b 0xc8, Mac.ofBytes 0xe8 0x3d 0xc1 0xf9 0x4c 0xc8]

/-- Two badges whose MACs differ in the middle only. -/
def twins : List Mac :=
  [Mac.ofBytes 0xe8 0x3d 0xc1 0xf9 0x4b 0xc8, Mac.ofBytes 0xe8 0x3d 0xc2 0x00 0x4b 0xc8]

theorem activeBadgeWorkers_counts_badges_iff_demo :
    (activeBadgeWorkers 1000 (queueOf 1000 strangers)).length = 2 :=
  ((activeBadgeWorkers_counts_badges_iff (polling_queueOf 1000 strangers)).mpr (by decide)).1

/-- Two badges, one callsign, one listed Worker. -/
theorem activeBadgeWorkers_misses_twin :
    ¬ ∀ (nowSeconds : Int) (macs : List Mac) (pollers : List Poller), macs.Nodup →
      Polling nowSeconds macs pollers →
      (activeBadgeWorkers nowSeconds pollers).length = macs.length := by
  intro hall
  have hlen := hall 1000 twins (queueOf 1000 twins) (by decide) (polling_queueOf 1000 twins)
  rw [length_activeBadgeWorkers (polling_queueOf 1000 twins)] at hlen
  have hnodup := length_dedup_eq_iff.mp (hlen.trans (List.length_map _).symm)
  exact absurd hnodup (by decide)

end DurableTrivia.Web
