import ChatTriage.Office
import ChatTriage.Settings

/-!
# Setting up an office

From the settings to the lines of an office and the desk that works with them. The cloud channel and
the webhook are always there, and the session channel when a session is listened to.
-/

namespace ChatTriage

namespace Settings

/-- The zone in which filters and forwarded messages tell the time. -/
def zone (s : Settings) : Except Fault Zone :=
  if s.timezone.isEmpty then .ok .host else Zone.named s.timezone

/-- The cloud channel. -/
def cloud (s : Settings) (zone : Zone) : Channel.Cloud where
  token := .ofText? s.accessToken
  phoneId := .ofText? s.phoneNumberId
  refreshToken := .ofText? s.refreshToken
  appId := .ofText? s.appId
  appSecret := .ofText? s.appSecret
  zone := zone

/-- Each line with the route on which it is used. What goes to the webhook carries the webhook's own
address as its destination. -/
def routedLines (s : Settings) (zone : Zone) (session : Option Channel.Session) :
    List (Desk.Route × Line) :=
  [(⟨Channel.Cloud.name, s.forwardCloud, s.cloudBroadcast⟩, .channel (.cloud (s.cloud zone))),
    (⟨Channel.Webhook.name, s.forwardWebhook, s.webhookUrl⟩,
      .channel (.webhook { url := .ofText? s.webhookUrl, zone }))] ++
  match session with
  | some channel =>
    [(⟨Channel.Session.name, s.forwardSession, s.sessionBroadcast⟩, .channel (.session channel))]
  | none => []

/-- The desk for some routes. -/
def desk (s : Settings) (zone : Zone) (routes : List Desk.Route) : Desk.Config :=
  { routes, zone, admins := .of (s.adminNumbers.map .str) }

end Settings

end ChatTriage
