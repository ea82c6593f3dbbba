import TenantBilling.Account.Plan
import TenantBilling.Account.Snapshot
import TenantBilling.Error

/-! The store of organizations, plans and usage snapshots, and the calls it answers. -/

namespace TenantBilling

structure Store where
  organizations : Table String Organization
  plans : Table Int Plan
  /-- The greatest id a plan was given, or zero. -/
  lastPlanId : Int
  snapshots : Table SnapshotKey Snapshot
  drafts : Table String Int
  members : Table String Int
  subOrgs : Table String Int
  /-- How often a subscription was written on its own. -/
  subscriptionWrites : Nat
deriving DecidableEq

instance : Inhabited Store := ⟨⟨∅, ∅, 0, ∅, ∅, ∅, ∅, 0⟩⟩

/-- The operations of a store. -/
inductive StoreOp where
  | organization
  | setOrganization
  | setSubscription
  | organizations
  | plan
  | planOfProduct
  | defaultPlan
  | setPlan
  | plans
  | snapshot
  | openSnapshot
  | countDrafts
  | countMembers
  | countSubOrgs
deriving DecidableEq

namespace StoreOp

def all : List StoreOp :=
  [organization, setOrganization, setSubscription, organizations, plan, planOfProduct,
    defaultPlan, setPlan, plans, snapshot, openSnapshot, countDrafts, countMembers, countSubOrgs]

def name : StoreOp → String
  | organization => "get_organization"
  | setOrganization => "set_organization"
  | setSubscription => "set_organization_subscription"
  | organizations => "list_organizations"
  | plan => "get_plan"
  | planOfProduct => "get_plan_by_product_id"
  | defaultPlan => "get_default_plan"
  | setPlan => "set_plan"
  | plans => "list_plans"
  | snapshot => "get_usage_snapshot"
  | openSnapshot => "upsert_usage_snapshot"
  | countDrafts => "count_draft_processes"
  | countMembers => "count_members"
  | countSubOrgs => "count_sub_organizations"

end StoreOp

/-- A call to a store with its arguments. -/
inductive StoreCall where
  | organization (address : String)
  | setOrganization (org : Organization)
  | setSubscription (address : String) (subscription : Subscription)
  | organizations
  | plan (id : Int)
  | planOfProduct (productId : String)
  | defaultPlan
  | setPlan (plan : Plan)
  | plans
  | snapshot (address : String) (start : Calendar.DateTime)
  | openSnapshot (candidate : Snapshot)
  | countDrafts (address : String)
  | countMembers (address : String)
  | countSubOrgs (address : String)

namespace StoreCall

def op : StoreCall → StoreOp
  | organization _ => .organization
  | setOrganization _ => .setOrganization
  | setSubscription _ _ => .setSubscription
  | organizations => .organizations
  | plan _ => .plan
  | planOfProduct _ => .planOfProduct
  | defaultPlan => .defaultPlan
  | setPlan _ => .setPlan
  | plans => .plans
  | snapshot _ _ => .snapshot
  | openSnapshot _ => .openSnapshot
  | countDrafts _ => .countDrafts
  | countMembers _ => .countMembers
  | countSubOrgs _ => .countSubOrgs

/-- What a call is answered with when it succeeds. -/
abbrev Answer : StoreCall → Type
  | organization _ => Option Organization
  | setOrganization _ => Unit
  | setSubscription _ _ => Unit
  | organizations => List Organization
  | plan _ => Option Plan
  | planOfProduct _ => Option Plan
  | defaultPlan => Option Plan
  | setPlan _ => Int
  | plans => List Plan
  | snapshot _ _ => Option Snapshot
  | openSnapshot _ => Snapshot
  | countDrafts _ => Int
  | countMembers _ => Int
  | countSubOrgs _ => Int

end StoreCall

namespace Store

def organization? (s : Store) (address : String) : Option Organization :=
  s.organizations.get? address

def setOrganization (s : Store) (org : Organization) : Store :=
  { s with organizations := s.organizations.insert org.address org }

/-- Replaces the subscription of an organization that is there. -/
def setSubscription (s : Store) (address : String) (subscription : Subscription) :
    Except StoreError Store :=
  match s.organizations.get? address with
  | none => .error (.notFound ("organization " ++ address))
  | some org =>
    .ok { s with
      organizations := s.organizations.insert address { org with subscription }
      subscriptionWrites := s.subscriptionWrites + 1 }

def planOfProduct? (s : Store) (productId : String) : Option Plan :=
  s.plans.values.find? fun p => p.productId == productId

def defaultPlan? (s : Store) : Option Plan := s.plans.values.find? (·.isDefault)

/-- Stores a plan under its id; a plan with id zero is given the next id first. -/
def setPlan (s : Store) (plan : Plan) : Store × Int :=
  if plan.id = 0 then
    let id := s.lastPlanId + 1
    ({ s with plans := s.plans.insert id { plan with id }, lastPlanId := id }, id)
  else
    ({ s with
       plans := s.plans.insert plan.id plan
       lastPlanId := max s.lastPlanId plan.id }, plan.id)

def snapshot? (s : Store) (address : String) (start : Calendar.DateTime) : Option Snapshot :=
  s.snapshots.get? ⟨address, start.instant⟩

/-- Stores a snapshot unless its period has one already; the one that is stored then. -/
def openSnapshot (s : Store) (candidate : Snapshot) : Store × Snapshot :=
  match s.snapshots.get? candidate.key with
  | some stored => (s, stored)
  | none => ({ s with snapshots := s.snapshots.insert candidate.key candidate }, candidate)

def countOf (counts : Table String Int) (address : String) : Int := (counts.get? address).getD 0

def setDrafts (s : Store) (address : String) (n : Int) : Store :=
  { s with drafts := s.drafts.insert address n }

def setMembers (s : Store) (address : String) (n : Int) : Store :=
  { s with members := s.members.insert address n }

def setSubOrgs (s : Store) (address : String) (n : Int) : Store :=
  { s with subOrgs := s.subOrgs.insert address n }

/-- Replaces the counters of an organization that is there. -/
def setCounters (s : Store) (address : String) (counters : Counters) : Store :=
  { s with organizations := s.organizations.adjust address fun org => { org with counters } }

/-- Answers a call and carries it out. -/
def answer (s : Store) : (c : StoreCall) → Except StoreError c.Answer × Store
  | .organization address => (.ok (s.organization? address), s)
  | .setOrganization org => (.ok (), s.setOrganization org)
  | .setSubscription address subscription =>
    match s.setSubscription address subscription with
    | .ok s' => (.ok (), s')
    | .error e => (.error e, s)
  | .organizations => (.ok s.organizations.values, s)
  | .plan id => (.ok (s.plans.get? id), s)
  | .planOfProduct productId => (.ok (s.planOfProduct? productId), s)
  | .defaultPlan => (.ok s.defaultPlan?, s)
  | .setPlan plan => (.ok (s.setPlan plan).2, (s.setPlan plan).1)
  | .plans => (.ok s.plans.values, s)
  | .snapshot address start => (.ok (s.snapshot? address start), s)
  | .openSnapshot candidate => (.ok (s.openSnapshot candidate).2, (s.openSnapshot candidate).1)
  | .countDrafts address => (.ok (countOf s.drafts address), s)
  | .countMembers address => (.ok (countOf s.members address), s)
  | .countSubOrgs address => (.ok (countOf s.subOrgs address), s)

end Store

end TenantBilling
