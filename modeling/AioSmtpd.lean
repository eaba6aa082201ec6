import AioSmtpd.Python
import AioSmtpd.StreamReader
import AioSmtpd.Session
import AioSmtpd.Commands
import AioSmtpd.Data
import AioSmtpd.Client
import AioSmtpd.Proofs.Effects
import AioSmtpd.Proofs.DataPhase
import AioSmtpd.Proofs.Walk
import AioSmtpd.Proofs.Steps
import AioSmtpd.Proofs.Runs
import AioSmtpd.Proofs.Envelope
import AioSmtpd.Proofs.Transitions
import AioSmtpd.Proofs.Transaction
import AioSmtpd.Proofs.DotStuffing
import AioSmtpd.Proofs.LineLimits
import AioSmtpd.Proofs.SharedTable
import AioSmtpd.Proofs.Params
import AioSmtpd.Proofs.MailAccept
import AioSmtpd.Proofs.SizeLimit
import AioSmtpd.Proofs.Pool
import AioSmtpd.Proofs.Replies
import AioSmtpd.Proofs.Utf8
import AioSmtpd.Proofs.Termination
import AioSmtpd.Proofs.Isolation
import AioSmtpd.Proofs.Framing
import AioSmtpd.Proofs.Refusals
import AioSmtpd.Proofs.CommandLine
import AioSmtpd.Proofs.ReadAhead
