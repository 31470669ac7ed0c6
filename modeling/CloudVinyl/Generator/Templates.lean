import CloudVinyl.Generator.TemplateData
import CloudVinyl.Lib.Vcl

set_option relaxedAutoImplicit false
set_option autoImplicit false

/-!
# The subroutines of the generated VCL

The templates `vcl_*.vcl.tmpl` of `internal/generator/templates`, as bodies of VCL subroutines.
Each definition follows its template from top to bottom, comments included; a piece that the
template puts under an `if` is a `Code.when`.

## Main definitions

* `Generator.vclRecv`, `Generator.vclHash`, `Generator.vclPass`, `Generator.vclBackendFetch`,
  `Generator.vclBackendResponse`, `Generator.vclDeliver` and the other subroutines.
* `Generator.customSnippet`, `Generator.ownerSnippet` — the code of a user at its place, in the
  second case guarded so that it does not run on a pod that relays.
-/

namespace CloudVinyl.Generator

open Vcl Vcl.Code

/-- The header that marks a request as relayed by a peer. -/
def shardHeader : Text := "X-Vinyl-Shard"

/-! ## Snippets -/

/-- A snippet between its two comment lines. -/
def snippetLines (place text : Text) : Code :=
  ofList [.note ("# --- custom " ++ place ++ " snippet ---"), .insert place text,
    .note ("# --- end custom " ++ place ++ " snippet ---")]

/-- A snippet and an empty line, if there is one. -/
def customSnippet (place text : Text) : Code :=
  when (!text.isEmpty) (snippetLines place text ++ ofList [.note ""])

/-- A snippet that a cluster runs only where the request did not come with the shard header. -/
def ownerSnippet (d : TemplateData) (o : Obj) (notes : List Stmt) (place text : Text) : Code :=
  when (!text.isEmpty)
    ((if d.hasCluster then
        ofList notes ++ guarded (.not (.header o shardHeader)) (snippetLines place text)
      else snippetLines place text) ++ ofList [.note ""])

/-! ## vcl_init -/

/-- A director with its backends; `weight` is the second argument of `add_backend`. -/
def newDirector (name kind weight : Text) (backends : List Text) : List Stmt :=
  .other ("new " ++ name ++ " = directors." ++ kind ++ "();") ::
    backends.map fun b => .other (name ++ ".add_backend(" ++ b ++ weight ++ ");")

/-- The members of the director of a group: its backends, or its placeholder. -/
def BackendGroup.members (g : BackendGroup) : List Text :=
  g.backends.map (·.name) ++ if g.placeholder = [] then [] else [g.placeholder]

/-- The director of a group. -/
def groupDirector (go : Go) (g : BackendGroup) : List Stmt :=
  match g.director.type with
  | .shard =>
    newDirector g.name "shard" "" g.members ++
      (if g.director.warmup = 0 then []
        else [.other (g.name ++ ".set_warmup(" ++ go.sprint g.director.warmup ++ ");")]) ++
      (if g.director.rampup = [] then []
        else [.other (g.name ++ ".set_rampup(" ++ g.director.rampup ++ ");")]) ++
      [.other (g.name ++ ".reconfigure();")]
  | .roundRobin => newDirector g.name "round_robin" "" g.members
  | .random => newDirector g.name "random" ", 1.0" g.members
  | .hash => newDirector g.name "hash" ", 1.0" g.members
  | .fallback => newDirector g.name "fallback" "" g.members

/-- The director over the cluster peers. A warmup of zero is still a warmup that is set. -/
def clusterDirector (go : Go) (d : TemplateData) : List Stmt :=
  .note "# --- cluster peer director (routes requests across Varnish pods) ---" ::
    newDirector d.directorName "shard" "" (d.peerDefs.map (·.name)) ++
      (match d.input.spec.director.shard with
      | none => []
      | some shard =>
        (match shard.warmup with
          | none => []
          | some w => [.other (d.directorName ++ ".set_warmup(" ++ go.sprint w ++ ");")]) ++
        (if shard.rampup = 0 then []
          else [.other (d.directorName ++ ".set_rampup(" ++ fmtDuration shard.rampup ++ ");")])) ++
      [.other (d.directorName ++ ".reconfigure();")]

/-- `vcl_init.vcl.tmpl` -/
def vclInit (go : Go) (d : TemplateData) : Code :=
  ofList [.note ("# --- per-backend directors (un-snippeted traffic goes to the first one, " ++
    "see vcl_recv; a vcl_recv snippet can route elsewhere) ---")] ++
  ofList (d.backendGroups.flatMap (groupDirector go)) ++
  when d.hasCluster (ofList (clusterDirector go d)) ++
  ofList [.note ""] ++
  customSnippet "vcl_init" d.input.spec.vcl.snippets.vclInit ++
  ofList [.ret .ok]

/-! ## vcl_recv -/

/-- Clean-up of the request: `Proxy`, the host and the order of the query. -/
def recvNormalize : Code :=
  ofList [
    .note "# Security: strip Proxy header to prevent SSRF (httpoxy CVE-2016-5385)",
    .unset .req "proxy",
    .note "",
    .note "# Normalize Host header: lowercase and strip port",
    .set .req "Host" "std.tolower(regsub(req.http.Host, \":[0-9]+$\", \"\"))",
    .note "",
    .note "# Sort query string for better cache hit ratio",
    .other "set req.url = std.querysort(req.url);"]

/-- The gate for the `traceparent` of a client. -/
def recvTraceparent : Code :=
  ofList [
    .note "",
    .note "# Tracing: the incoming traceparent is untrusted client input. Drop",
    .note "# anything not matching the W3C trace-context shape, all-zero ids, or",
    .note "# the forbidden version ff, so the tracer and the backend only ever",
    .note "# see a well-formed header."] ++
  block (.test ("req.http.traceparent &&\n        req.http.traceparent !~ \"^[0-9a-f]\x7b2\x7d-" ++
      "[0-9a-f]\x7b32\x7d-[0-9a-f]\x7b16\x7d-[0-9a-f]\x7b2\x7d$\""))
    (ofList [.unset .req "traceparent"]) ++
  block (.test ("req.http.traceparent ~ \"^[0-9a-f]\x7b2\x7d-0\x7b32\x7d-\" ||\n" ++
      "        req.http.traceparent ~ \"-0\x7b16\x7d-[0-9a-f]\x7b2\x7d$\" ||\n" ++
      "        req.http.traceparent ~ \"^ff-\""))
    (ofList [.unset .req "traceparent"])

/-- A purge by key, hard or soft. -/
def recvXkey (header call done : Text) : Code :=
  block (.header .req header) (ofList [
    .set .req "n-gone" ("xkey." ++ call ++ "(req.http." ++ header ++ ")"),
    .ret (.synth ("200, \"" ++ done ++ " \" + req.http.n-gone + \" objects\""))])

/-- The part of `vcl_recv` for a `PURGE`. -/
def recvPurge (d : TemplateData) : Code :=
  ofList [.note "", .note "# PURGE handling"] ++
  block (.method "PURGE") (
    block (.not (.client "vinyl_purge_allowed")) (ofList [.ret (.synth "403, \"Forbidden\"")]) ++
    when d.hasXkey (
      recvXkey "X-Xkey-Purge" "purge" "Purged" ++
      recvXkey "X-Xkey-Softpurge" "softpurge" "Softpurged") ++
    ofList [
      .note "# vmod_purge's soft/hard purge functions are restricted to",
      .note "# vcl_hit/vcl_miss (see those subs), so hash the request through",
      .note "# rather than purging directly here, which would always be hard.",
      .ret .hash])

/-- The part of `vcl_recv` for a `BAN`. -/
def recvBan : Code :=
  ofList [
    .note "",
    .note "# BAN handling — std.ban() preferred over deprecated ban() (Varnish >= 6.6).",
    .note "# std.ban() returns true on success, false on malformed expression;",
    .note "# std.ban_error() returns the last compile error for this session."] ++
  block (.method "BAN") (
    block (.not (.client "vinyl_ban_allowed")) (ofList [.ret (.synth "403, \"Forbidden\"")]) ++
    block (.not (.header .req "X-Vinyl-Ban"))
      (ofList [.ret (.synth "400, \"Missing X-Vinyl-Ban header\"")]) ++
    block (.test "!std.ban(req.http.X-Vinyl-Ban)")
      (ofList [.ret (.synth "400, \"Invalid ban expression: \" + std.ban_error()")]) ++
    ofList [.ret (.synth "200, \"Banned\"")])

/-- The selection of a peer by the cluster director. -/
def peerSelection (d : TemplateData) : Text :=
  let healthy : Text :=
    if d.clusterShardHealthy = [] then "" else ", healthy=" ++ d.clusterShardHealthy
  d.directorName ++ ".backend(by=" ++ d.clusterShardBy ++ healthy ++ ")"

/-- Drop the shard header of a fragment. -/
def recvStripFragment (d : TemplateData) : Code :=
  when d.hasESI (
    ofList [
      .note "# An ESI subrequest starts from the headers its parent was received with.",
      .note "# On the owner hop of the page that includes X-Vinyl-Shard, so without this",
      .note "# the fragment would be looked up and cached on the page's owner instead of",
      .note "# being relayed to the fragment's own shard owner. The relayed request",
      .note "# reaches that owner as a normal request (esi_level 0) with the header set,",
      .note "# so it cannot loop."] ++
    block .esiLevel (ofList [.unset .req shardHeader]))

/-- Drop the shard header of anyone but a peer, and of a fragment. -/
def recvStripShard (d : TemplateData) : Code :=
  ofList [
    .note "",
    .note "# Cluster routing. MUST run after PURGE/BAN handling above, never before",
    .note "# (#93). PURGE and BAN are control commands addressed to the specific pod",
    .note "# that receives them, authorized by checking the real client.ip against",
    .note "# vinyl_purge_allowed / vinyl_ban_allowed. This block's `return(pass)`",
    .note "# relays every method it sees to a peer; if it ran first, an operator's",
    .note "# PURGE/BAN would be relayed to a peer before that ACL check ran, and the",
    .note "# peer would see client.ip as the relaying Varnish pod instead of the",
    .note "# operator and reject it with 403. Do not move this block back above",
    .note "# PURGE/BAN handling.",
    .note "#",
    .note "# Strip spoofed X-Vinyl-Shard from untrusted clients"] ++
  block (.and (.header .req shardHeader) (.not (.paren (.client "vinyl_cluster_peers"))))
    (ofList [.unset .req shardHeader]) ++
  recvStripFragment d

/-- Relay a request without the shard header to a peer; take the header off any other. -/
def recvRoute (d : TemplateData) : Code :=
  ofList [.note "# Route to responsible peer; if already routed, proceed to cache lookup"] ++
  block (.not (.header .req shardHeader)) (ofList [
    .set .req shardHeader "\"1\"",
    .hint (peerSelection d),
    .ret .pass]) ++
  ofList [.unset .req shardHeader]

/-- What follows the cluster routing: the default route, the client address, the methods that are
passed, the snippet and the lookup. -/
def recvServe (d : TemplateData) : Code :=
  when (!d.defaultBackendHint.isEmpty) (ofList [
    .note "",
    .note "# Default route: the first backend's director, so un-snippeted traffic",
    .note "# spreads across its pods. A vclRecv snippet may still override it. Runs",
    .note "# after the cluster block so the owner hop and ESI fragments get it too.",
    .hint d.defaultBackendHint]) ++
  when d.hasProxyProtocol (
    ofList [
      .note "",
      .note "# PROXY Protocol: extract real client IP from X-Forwarded-For"] ++
    block (.header .req "X-Forwarded-For")
      (ofList [.set .req "X-Real-IP" "regsub(req.http.X-Forwarded-For, \",.*$\", \"\")"])) ++
  ofList [.note "", .note "# Only handle GET and HEAD for caching (pass everything else)"] ++
  block (.and (.otherMethod "GET") (.otherMethod "HEAD")) (ofList [.ret .pass]) ++
  ofList [.note ""] ++
  customSnippet "vcl_recv" d.input.spec.vcl.snippets.vclRecv ++
  ofList [.ret .hash]

/-- `vcl_recv.vcl.tmpl` -/
def vclRecv (d : TemplateData) : Code :=
  (recvNormalize ++ when d.hasTracing recvTraceparent) ++
  (recvPurge d ++ when d.hasBAN recvBan) ++
  when d.hasCluster (recvStripShard d ++ recvRoute d) ++
  recvServe d

/-! ## vcl_hash, vcl_hit, vcl_miss, vcl_pass -/

/-- `vcl_hash.vcl.tmpl` -/
def vclHash (d : TemplateData) : Code :=
  ofList [.other "hash_data(req.url);"] ++
  ifElse (.header .req "host") (ofList [.other "hash_data(req.http.host);"])
    (ofList [.other "hash_data(server.ip);"]) ++
  ofList [.note ""] ++
  ownerSnippet d .req [
    .note "# Cluster mode: run the snippet on the owner hop only (#150). The",
    .note "# relay hop passes the request to the owner, which does the lookup;",
    .note "# the owner removed X-Vinyl-Shard in vcl_recv."] "vcl_hash"
    d.input.spec.vcl.snippets.vclHash ++
  ofList [.ret .lookup]

/-- The purge of the object that was looked up, soft or hard. -/
def purgeObject (d : TemplateData) : Code :=
  block (.method "PURGE") (ofList [
    .set .req "n-gone" (if d.hasSoftPurge then "purge.soft()" else "purge.hard()"),
    .ret (.synth "200, \"Purged \" + req.http.n-gone + \" objects\"")])

/-- `vcl_hit.vcl.tmpl` -/
def vclHit (d : TemplateData) : Code :=
  ofList [
    .note "# PURGE handling: the vmod_purge functions used below are restricted to",
    .note "# vcl_hit/vcl_miss, which is why vcl_recv hashes PURGE requests through",
    .note "# rather than purging directly. spec.invalidation.purge.soft selects",
    .note "# between them at render time: the soft variant only reduces the",
    .note "# object's ttl (grace/keep untouched by default), so Varnish's core",
    .note "# keeps serving it from grace while asynchronously revalidating — the",
    .note "# same \"soft\" semantics xkey.softpurge() already provides for",
    .note "# xkey-based invalidation. The hard variant evicts immediately."] ++
  purgeObject d ++
  ofList [
    .note "#",
    .note "# No manual ttl/grace/keep bookkeeping below: Varnish 8's builtin vcl_hit",
    .note "# is empty (that logic moved into the C core in 6.0), so a plain",
    .note "# return(deliver) here is equivalent to calling vcl_builtin_hit. Earlier",
    .note "# versions of this template replicated pre-6.0 ttl/grace/keep checks by",
    .note "# hand; that block never affected anything Varnish's core wasn't already",
    .note "# doing on its own, but its presence made it look like `soft` was wired",
    .note "# into cache-hit handling when it never touched the actual purge action",
    .note "# (#94).",
    .note ""] ++
  customSnippet "vcl_hit" d.input.spec.vcl.snippets.vclHit ++
  ofList [.ret .deliver]

/-- `vcl_miss.vcl.tmpl` -/
def vclMiss (d : TemplateData) : Code :=
  ofList [
    .note "# See vcl_hit for why PURGE is handled here via vmod_purge rather than in",
    .note "# vcl_recv. Called here too (not only from vcl_hit) so a PURGE for a URL",
    .note "# whose primary hash exists but this particular Vary variant does not",
    .note "# still resolves the object rather than silently falling through to a",
    .note "# normal backend fetch."] ++
  purgeObject d ++
  ofList [.note ""] ++
  customSnippet "vcl_miss" d.input.spec.vcl.snippets.vclMiss ++
  ofList [.ret .fetch]

/-- `vcl_pass.vcl.tmpl` -/
def vclPass (d : TemplateData) : Code :=
  ofList [.note ""] ++
  ownerSnippet d .req [
    .note "# Cluster mode: run the snippet on the owner hop only (#150). On the",
    .note "# relay hop every request passes to the owner; the owner removes",
    .note "# X-Vinyl-Shard in vcl_recv."] "vcl_pass" d.input.spec.vcl.snippets.vclPass ++
  ofList [.ret .fetch]

/-! ## vcl_backend_fetch, vcl_backend_response, vcl_backend_error -/

/-- On a retry, another backend of the group or another peer. -/
def fetchReselect (d : TemplateData) : Code :=
  ofList [
    .note "# On a retry, move to another backend of the same group (#117). Without",
    .note "# this, a shard director resolved on the client side sends the retry to",
    .note "# the backend that just failed. Runs before the custom snippet, so a",
    .note "# snippet that sets bereq.backend still wins."] ++
  block .retried (
    (d.backendGroups.foldr (fun g rest => when (decide (g.retries ≠ 0))
      (block (.test g.retryMatch) (ofList [.backend g.retryReselect])) ++ rest) .nil) ++
    when (decide (d.peerRetries ≠ 0))
      (block (.test d.peerRetryMatch) (ofList [.backend d.peerRetryReselect])))

/-- The span id of the fetch, put into the `traceparent` sent to the backend. -/
def fetchTraceparent : Code :=
  ofList [
    .note "# Tracing: the span id minted here becomes the \"varnish fetch\" span's",
    .note "# id — the tracer adopts it from the VSL BereqHeader record — so the",
    .note "# backend's own spans parent under the fetch span. Runs for bgfetch",
    .note "# too (each backend fetch gets its own id). std.tolower guards against",
    .note "# a vmod uuid implementation emitting uppercase hex (W3C: lowercase)."] ++
  ifElse (.header .bereq "traceparent")
    (ofList [.set .bereq "traceparent" ("regsub(bereq.http.traceparent,\n" ++
      "            \"^([0-9a-f]\x7b2\x7d-[0-9a-f]\x7b32\x7d-)[0-9a-f]\x7b16\x7d" ++
      "(-[0-9a-f]\x7b2\x7d)$\",\n" ++
      "            \"\\1\" + std.tolower(regsub(uuid.uuid_v4(),\n" ++
      "                \"^(........)-(....)-(....).*$\", \"\\1\\2\\3\")) + \"\\2\")")])
    (ofList [.set .bereq "traceparent" ("\"00-\" +\n" ++
      "            std.tolower(regsuball(uuid.uuid_v4(), \"-\", \"\")) + \"-\" +\n" ++
      "            std.tolower(regsub(uuid.uuid_v4(),\n" ++
      "                \"^(........)-(....)-(....).*$\", \"\\1\\2\\3\")) + \"-01\"")])

/-- `vcl_backend_fetch.vcl.tmpl` -/
def vclBackendFetch (d : TemplateData) : Code :=
  when d.hasFetchRetry (fetchReselect d) ++
  ofList [.note ""] ++
  ownerSnippet d .bereq [
    .note "# Cluster mode: run the snippet on the owner hop only (#150). On the",
    .note "# relay hop it would rewrite the request to the owner, which then",
    .note "# rewrites it again. Only the relay forwards X-Vinyl-Shard."] "vcl_backend_fetch"
    d.input.spec.vcl.snippets.vclBackendFetch ++
  when d.hasTracing fetchTraceparent ++
  ofList [.ret .fetch]

/-- `vcl_backend_response.vcl.tmpl` -/
def vclBackendResponse (d : TemplateData) : Code :=
  ofList [.note "# Prevent caching of zero-TTL objects; use uncacheable flag instead"] ++
  block (.test "beresp.ttl <= 0s && beresp.http.Cache-Control !~ \"max-age\"") (ofList [
    .other "set beresp.ttl = 120s;",
    .other "set beresp.uncacheable = true;"]) ++
  ofList [.note "", .note "# Ensure a grace period for stale-while-revalidate"] ++
  block (.test "beresp.grace < 24h") (ofList [.other "set beresp.grace = 24h;"]) ++
  when (d.hasXkey || d.hasBAN) (ofList [
    .note "",
    .note "# Copy URL and Host for BAN lurker friendliness (ban-lurker cannot access req.*)",
    .set .beresp "x-url" "bereq.url",
    .set .beresp "x-host" "bereq.http.host"]) ++
  when d.hasESI (
    ofList [
      .note "",
      .note "# ESI processing for backends that declare it (Surrogate-Control per",
      .note "# W3C ESI 1.0). do_esi is meaningful on its own; the varnishd param",
      .note "# feature=+esi_disable_xml_check only matters when a response body",
      .note "# doesn't start with '<' (otherwise varnishd logs ESI_xmlerror and",
      .note "# serves the body unparsed)."] ++
    block (.test "beresp.http.Surrogate-Control ~ \"ESI/1.0\"")
      (ofList [.other "set beresp.do_esi = true;"])) ++
  ofList [.note ""] ++
  ownerSnippet d .bereq [
    .note "# Cluster mode: run the snippet on the owner hop only (#150). On the",
    .note "# relay hop it would rework the owner's response a second time.",
    .note "# Only the relay forwards X-Vinyl-Shard."] "vcl_backend_response"
    d.input.spec.vcl.snippets.vclBackendResponse ++
  ofList [.ret .deliver]

/-- The condition for the retry of a fetch: there are retries left, the backend is one of those that
are retried, and, where there is a bound, the fetch has not taken as long. -/
def retryTest (retries : ℤ) (backends bound : Text) : Text :=
  let inTime : Text := if bound = [] then "" else " && now - bereq.time < " ++ bound
  "bereq.retries < " ++ Text.decimalInt retries ++ " && (" ++ backends ++ ")" ++ inTime

/-- The retry of a fetch that got no response, while the group still has retries left. -/
def errorRetry (retries : ℤ) (backends bound : Text) : Code :=
  block (.test (retryTest retries backends bound)) (ofList [.ret .retry])

/-- `vcl_backend_error.vcl.tmpl` -/
def vclBackendError (d : TemplateData) : Code :=
  ofList [
    .note "# No unconditional return here on purpose: falling through keeps",
    .note "# varnishd's builtin vcl_backend_error, which builds the default error",
    .note "# page. A snippet ending in retry, abandon, or deliver after synthetic()",
    .note "# replaces it."] ++
  when d.hasFetchRetry (
    ofList [
      .note "",
      .note "# Retry GET/HEAD fetches that got no response (#117): connection",
      .note "# refused, connection closed before the response, connect timeout.",
      .note "# vcl_backend_fetch moves the retry to another backend. A",
      .note "# first_byte_timeout looks the same here, only the elapsed time tells it",
      .note "# apart, so a fetch that already waited that long is not retried.",
      .note "# bereq.first_byte_timeout does not reflect a backend's own",
      .note "# .first_byte_timeout, hence the per-group bound."] ++
    block (.test ("bereq.method ~ \"^(GET|HEAD)$\" && " ++
        "now - bereq.time < bereq.first_byte_timeout")) (
      (d.backendGroups.foldr (fun g rest => when (decide (g.retries ≠ 0))
        (errorRetry g.retries g.retryMatch g.retryFirstByteTimeout) ++ rest) .nil) ++
      when (decide (d.peerRetries ≠ 0)) (errorRetry d.peerRetries d.peerRetryMatch []))) ++
  when (!d.input.spec.vcl.snippets.vclBackendError.isEmpty) (
    ofList [.note ""] ++
    snippetLines "vcl_backend_error" d.input.spec.vcl.snippets.vclBackendError)

/-! ## vcl_deliver, vcl_purge, vcl_pipe, vcl_synth, vcl_fini -/

/-- `vcl_deliver.vcl.tmpl` -/
def vclDeliver (d : TemplateData) : Code :=
  when (d.hasXkey || d.hasBAN) (ofList [
    .note "# Strip internal BAN-support headers before sending to client",
    .unset .resp "x-url",
    .unset .resp "x-host"]) ++
  ofList [.note ""] ++
  ownerSnippet d .req [
    .note "# Cluster mode: run the snippet on the owner hop only (#150). On the",
    .note "# relay hop it would overwrite what the owner set, such as an x-cache",
    .note "# header from obj.hits. The owner removes X-Vinyl-Shard in vcl_recv."] "vcl_deliver"
    d.input.spec.vcl.snippets.vclDeliver ++
  ofList [.ret .deliver]

/-- `vcl_purge.vcl.tmpl` -/
def vclPurge (d : TemplateData) : Code :=
  ofList [.note ""] ++ customSnippet "vcl_purge" d.input.spec.vcl.snippets.vclPurge ++
  ofList [.ret (.synth "200, \"Purged\"")]

/-- `vcl_pipe.vcl.tmpl` -/
def vclPipe (d : TemplateData) : Code :=
  ofList [.note ""] ++ customSnippet "vcl_pipe" d.input.spec.vcl.snippets.vclPipe ++
  ofList [.ret .pipe]

/-- `vcl_synth.vcl.tmpl` -/
def vclSynth (d : TemplateData) : Code :=
  ofList [
    .note "# All four purge paths (vcl_recv's xkey purge and xkey softpurge, and",
    .note "# vcl_hit/vcl_miss's vmod_purge soft and hard variants) stash the object",
    .note "# count vmod_purge/vmod_xkey returned in req.http.n-gone before calling",
    .note "# return(synth(200, ...)); this is the one place all of them pass",
    .note "# through on the way out, so it is the one place the count needs to be",
    .note "# copied onto the response. A header is a stable, machine-readable",
    .note "# contract; the reason phrase it also lands in (\"Purged N objects\") is",
    .note "# for humans and must not be the only way to read the count (#103) —",
    .note "# without this, a purge that removed nothing was indistinguishable from",
    .note "# one that removed everything at every layer above Varnish. Nothing",
    .note "# else that reaches vcl_synth (403 Forbidden, 400 invalid ban",
    .note "# expression, ...) ever sets n-gone, so the header is only ever added",
    .note "# to an actual purge response."] ++
  block (.header .req "n-gone") (ofList [.set .resp "X-Vinyl-Purged" "req.http.n-gone"]) ++
  ofList [.note ""] ++
  customSnippet "vcl_synth" d.input.spec.vcl.snippets.vclSynth ++
  ofList [.ret .deliver]

/-- `vcl_fini.vcl.tmpl` -/
def vclFini (d : TemplateData) : Code :=
  ofList [.note ""] ++ customSnippet "vcl_fini" d.input.spec.vcl.snippets.vclFini ++
  ofList [.ret .ok]

end CloudVinyl.Generator
