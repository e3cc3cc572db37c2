import SealedTokens.Csrf.Basic
import SealedTokens.Report.Error
import SealedTokens.Session.Basic
/-!
Reports of configurations, as they were read and as they were resolved.
-/
namespace SealedTokens

open Report

instance : Reported Settings where
  report s := record [("kind", Report.name s.kind), ("serializer", Report.name s.serializer),
    ("compressor", Report.name s.compressor), ("sealer", Report.name s.sealer),
    ("representer", Report.name s.representer), ("algorithm", Report.name s.algorithm),
    ("key", report s.key), ("key_debug", Json.ofText s!"Key(<{s.key.length} bytes>)"),
    ("emits_text", report s.emitsText)]

instance : Reported ContainerConfig where
  report c := record [("type", report c.kind), ("serializer", report c.serializer),
    ("compressor", report c.compressor), ("sealer", report c.sealer),
    ("representer", report c.representer), ("algorithm", report c.algorithm),
    ("key", report c.key), ("key_file", report c.keyFile)]

instance : Reported CookieConfig where
  report c := record [("domain", report c.domain), ("http_only", report c.httpOnly),
    ("name", report c.name), ("path", report c.path), ("same_site", report c.sameSite),
    ("secure", report c.secure)]

instance : Reported SessionConfig where
  report c := record [("container", report c.container), ("cookie", report c.cookie),
    ("header", report c.header), ("header_scheme", report c.headerScheme),
    ("max_age", report c.maxAge), ("refresh", report c.refresh)]

instance : Reported Sessions where
  report s := record [("max_age", report s.maxAge), ("refresh", report s.refresh),
    ("kind", Report.name s.factory.kind)]

instance : Reported CsrfConfig where
  report c := record [("key", report c.key), ("key_file", report c.keyFile), ("ttl", report c.ttl),
    ("parameter_name", report c.parameterName), ("methods", Report.list c.methods)]

instance : Reported Csrf where
  report c := record [("ttl", report c.ttl), ("parameter", report c.parameter),
    ("methods", Report.list c.methods)]

end SealedTokens
