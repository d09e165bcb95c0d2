import TenantView.Document.Envelope
import TenantView.Rewrite.Error
import TenantView.Settings.Basic
import TenantView.Visibility

/-!
# From the data of an envelope to its visible part

The data of an envelope is decoded as a listing of the expected kind, a matcher is built from the
values of the tenant, and the visible part of the listing is encoded again.  The listing is
decoded first, so that data of another kind is reported even if the values are unusable.
-/

namespace TenantView.Rewrite

open Document (Codec)

/-- The listing that the data of an envelope spells. -/
def payload {α : Type} (codec : Codec α) (kind : ListingKind) (data : Json.Value) :
    Except Error α :=
  (codec.decode .parsed data).mapError fun cause ↦ .payloadDecode kind (.ofCause cause)

/-- What is enforced for a tenant with the given values. -/
def enforcement (settings : Settings) (values : List String) : Except Error Enforcement :=
  (settings.enforcement values).mapError .transform

/-- The visible part of a rule listing with its events. -/
def visibleRules (settings : Settings) (e : Enforcement) (listing : RuleListing) :
    Logged RuleListing :=
  let walk := e.walk settings.rulesWithActiveAlerts listing.groups
  { value := walk.listing, events := e.walkEvents listing walk }

/-- The visible part of an alert listing with its events. -/
def visibleAlerts (e : Enforcement) (listing : AlertListing) : Logged AlertListing :=
  let visible := e.filterAlerts listing
  { value := visible, events := e.alertEvents listing visible }

/-- The visible part of the data of an envelope, with the events on the way to it. -/
def transform (settings : Settings) (kind : ListingKind) (values : List String)
    (envelope : Envelope) : Except Error (Logged Json.Value) := do
  match kind with
  | .rules =>
    let listing ← payload Codec.ruleListing kind envelope.data
    let visible := visibleRules settings (← enforcement settings values) listing
    return { value := Codec.ruleListing.encode visible.value, events := visible.events }
  | .alerts =>
    let listing ← payload Codec.alertListing kind envelope.data
    let visible := visibleAlerts (← enforcement settings values) listing
    return { value := Codec.alertListing.encode visible.value, events := visible.events }

end TenantView.Rewrite
