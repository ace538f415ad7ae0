import RsyslogMbedtls.Basic
import RsyslogMbedtls.Setters
import RsyslogMbedtls.Session
import RsyslogMbedtls.Io
import RsyslogMbedtls.Nsdsel
import RsyslogMbedtls.Bootstrap
import RsyslogMbedtls.Lifecycle
import RsyslogMbedtls.Configuration
import RsyslogMbedtls.Callbacks
import RsyslogMbedtls.Refinement
